import ClientGen.Toml.Number

/-!
Dates and times of TOML: a date, a time of day, or a date with a time of day and perhaps an offset.
-/
namespace ClientGen.Toml

def readTwo (least greatest : Nat) : List Char → Option (Nat × List Char)
  | a :: b :: rest =>
    if a.isDigit ∧ b.isDigit then
      let number := decimal [a, b]
      if least ≤ number ∧ number ≤ greatest then some (number, rest) else none
    else none
  | _ => none

/-- Read one given character. -/
def readChar (expected : Char) : List Char → Option (List Char)
  | [] => none
  | c :: rest => if c = expected then some rest else none

/-- Whether a year of the Gregorian calendar has a leap day. -/
def isLeapYear (year : Nat) : Bool := year % 4 == 0 && (year % 100 != 0 || year % 400 == 0)

def daysInMonth (year month : Nat) : Nat :=
  if month = 2 then if isLeapYear year then 29 else 28
  else if month ∈ [4, 6, 9, 11] then 30
  else 31

def twoDigits (n : Nat) : List Char := [Nat.digitChar (n / 10), Nat.digitChar (n % 10)]

/-- Read a date: its canonical text. -/
def readDate : List Char → Option (List Char × List Char)
  | a :: b :: c :: d :: rest => do
    let digits := [a, b, c, d]
    if !digits.all Char.isDigit then none
    let (month, rest) ← readTwo 1 12 (← readChar '-' rest)
    let (day, rest) ← readTwo 1 (daysInMonth (decimal digits) month) (← readChar '-' rest)
    return (digits ++ '-' :: twoDigits month ++ '-' :: twoDigits day, rest)
  | _ => none

/-- Read a fraction of a second after its point: the first nine digits without the zeros at their
end. -/
def readSecondFraction (cs : List Char) : Option (List Char × List Char) :=
  match cs with
  | '.' :: rest =>
    let digits := rest.takeWhile Char.isDigit
    if digits = [] then none
    else
      let kept := ((digits.take 9).reverse.dropWhile (· == '0')).reverse
      some (if kept = [] then [] else '.' :: kept, rest.dropWhile Char.isDigit)
  | _ => some ([], cs)

/-- Read a time of day: its canonical text. -/
def readTime (cs : List Char) : Option (List Char × List Char) := do
  let (hour, rest) ← readTwo 0 23 cs
  let (minute, rest) ← readTwo 0 59 (← readChar ':' rest)
  let (second, rest) ← readTwo 0 60 (← readChar ':' rest)
  let (fraction, rest) ← readSecondFraction rest
  return (twoDigits hour ++ ':' :: twoDigits minute ++ ':' :: twoDigits second ++ fraction, rest)

/-- Read hours and minutes of an offset. -/
def readOffsetTime (cs : List Char) : Option ((Nat × Nat) × List Char) := do
  let (hour, rest) ← readTwo 0 23 cs
  let (minute, rest) ← readTwo 0 59 (← readChar ':' rest)
  return ((hour, minute), rest)

/-- Read an offset, if one is next: its canonical text. An offset of nothing is positive. -/
def readOffset (cs : List Char) : List Char × List Char :=
  match cs with
  | 'Z' :: rest | 'z' :: rest => (['Z'], rest)
  | sign :: rest =>
    match if sign = '+' ∨ sign = '-' then readOffsetTime rest else none with
    | some ((hour, minute), rest) =>
      let shown := if hour = 0 ∧ minute = 0 then '+' else sign
      (shown :: twoDigits hour ++ ':' :: twoDigits minute, rest)
    | none => ([], cs)
  | [] => ([], [])

/-- Read the time of day after a date and what separates them, if they are next. -/
def readTimeOfDate (cs : List Char) : List Char × List Char :=
  match cs with
  | separator :: rest =>
    match if separator ∈ ['T', 't', ' '] then readTime rest else none with
    | some (time, rest) =>
      let (offset, rest) := readOffset rest
      ('T' :: time ++ offset, rest)
    | none => ([], cs)
  | [] => ([], [])

/-- Read a date, a time of day or both. -/
def readMoment (cs : List Char) : Option (Value × List Char) :=
  match readDate cs with
  | some (date, rest) =>
    let (time, rest) := readTimeOfDate rest
    some (.moment (String.ofList (date ++ time)), rest)
  | none => do
    let (time, rest) ← readTime cs
    return (.moment (String.ofList time), rest)

end ClientGen.Toml
