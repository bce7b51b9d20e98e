import ClientGen.Http.Name.DirectionTable
import ClientGen.Text.Mark

/-!
Directions of writing. In a name that holds anything written from right to left, every label must
show where it starts and ends: it keeps to one direction and has no loose ends.
-/
namespace ClientGen.Http

/-- The direction that a character has or takes. -/
inductive Direction where
  | left
  | right
  /-- European numbers, which run from left to right in either direction. -/
  | number
  | arabicNumber
  | neutral
  /-- Marks, which follow what they belong to. -/
  | mark
  deriving DecidableEq, Repr

def Direction.ofChar (c : Char) : Direction :=
  if Text.isBoundMark c then .mark
  else if Text.inRanges rightRanges c.toNat then .right
  else if Text.inRanges arabicNumberRanges c.toNat then .arabicNumber
  else if Text.inRanges numberRanges c.toNat then .number
  else if Text.inRanges neutralRanges c.toNat then .neutral
  else .left

/-- Whether a direction makes a name one that is written from right to left. -/
def Direction.isRightward (direction : Direction) : Bool :=
  direction = .right || direction = .arabicNumber

/-- Whether a label holds anything that makes its name one that is written from right to left. -/
def isRightToLeft (label : List Char) : Bool :=
  label.any fun c => (Direction.ofChar c).isRightward

def lastDirection? (directions : List Direction) : Option Direction :=
  (directions.reverse.dropWhile (· = .mark)).head?

/-- Whether the directions of a label keep to the first, which is left or right, and end in a letter
or a number. Numbers of both kinds do not stand together. -/
def keepsDirection : List Direction → Bool
  | [] => true
  | .left :: rest =>
    rest.all (!·.isRightward) && (lastDirection? rest).all fun last => last = .left || last = .number
  | .right :: rest =>
    rest.all (· ≠ .left) && (lastDirection? rest).all (fun last => last.isRightward || last = .number)
      && !(rest.contains .number && rest.contains .arabicNumber)
  | _ => false

end ClientGen.Http
