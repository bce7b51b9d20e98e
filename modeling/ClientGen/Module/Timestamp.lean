/-!
The time stamp of a generated module, and texts compared apart from their stamps. A stamp is a
line of its own, written in UTC to the second.
-/
namespace ClientGen.Module

/-- A day of the proleptic Gregorian calendar. -/
structure Date where
  year : Int
  month : Nat
  day : Nat
  deriving DecidableEq, Repr

/-- The date a number of days after the first of January 1970. Years are counted from March, so
that a leap day is the last day of its year, in eras of 400 years. -/
def Date.ofDays (days : Int) : Date :=
  let shifted := days + 719468
  let era := shifted / 146097
  let dayOfEra := (shifted % 146097).toNat
  let yearOfEra :=
    (dayOfEra - dayOfEra / 1460 + dayOfEra / 36524 - dayOfEra / 146096) / 365
  let dayOfYear := dayOfEra - (365 * yearOfEra + yearOfEra / 4 - yearOfEra / 100)
  let monthFromMarch := (5 * dayOfYear + 2) / 153
  let day := dayOfYear - (153 * monthFromMarch + 2) / 5 + 1
  let month := if monthFromMarch < 10 then monthFromMarch + 3 else monthFromMarch - 9
  let year := era * 400 + yearOfEra
  ⟨if month ≤ 2 then year + 1 else year, month, day⟩

/-- A number with at least the given count of digits. -/
def paddedChars (width n : Nat) : List Char :=
  let digits := Nat.toDigits 10 n
  List.replicate (width - digits.length) '0' ++ digits

/-- A year of four digits; outside of these years, with its sign and at least four digits. -/
def yearChars (year : Int) : List Char :=
  if 0 ≤ year ∧ year ≤ 9999 then paddedChars 4 year.toNat
  else (if year < 0 then '-' else '+') :: paddedChars 4 year.natAbs

/-- The text of a time given in seconds since 1970. -/
def stampChars (seconds : Int) : List Char :=
  let date := Date.ofDays (seconds / 86400)
  let second := (seconds % 86400).toNat
  yearChars date.year ++ '-' :: paddedChars 2 date.month ++ '-' :: paddedChars 2 date.day ++
    'T' :: paddedChars 2 (second / 3600) ++ ':' :: paddedChars 2 (second / 60 % 60) ++
    ':' :: paddedChars 2 (second % 60) ++ ['Z']

/-- What every stamp line starts with. -/
def stampMark : String := "// Generated at: "

/-- The stamp line of a time given in seconds since 1970. -/
def stampLine (seconds : Int) : String := stampMark ++ String.ofList (stampChars seconds) ++ "\n"

/-- The lines of a text, each with the line feed that ends it; the last may have none. -/
def lines : List Char → List (List Char)
  | [] => []
  | c :: rest =>
    if c = '\n' then [c] :: lines rest
    else
      match lines rest with
      | [] => [[c]]
      | line :: more => (c :: line) :: more

/-- Whether a line is a stamp. -/
def isStamp (line : List Char) : Bool := stampMark.toList.isPrefixOf line

/-- A text without its stamp lines, over characters. -/
def stripStampsChars (text : List Char) : List Char :=
  ((lines text).filter (!isStamp ·)).flatten

/-- A text without its stamp lines. -/
def stripStamps (text : String) : String := String.ofList (stripStampsChars text.toList)

/-- Whether two texts are the same apart from their stamp lines. -/
def sameContent (left right : String) : Bool := stripStamps left == stripStamps right

end ClientGen.Module
