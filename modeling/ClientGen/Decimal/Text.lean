import ClientGen.Decimal.Shortest

/-!
How doubles are written. The digits are always the shortest that read back; a layout says which
magnitudes are written positionally and which in scientific notation.
-/
namespace ClientGen.Decimal

/-- A layout writes positionally from the decimal exponent `least` to `greatest`, where an absent
end is no bound. -/
structure Layout where
  least : Option Int
  greatest : Option Int

/-- Numbers of data and of generated code: positional from `0.00001` to below `10 ^ 16`. -/
def Layout.data : Layout := ⟨some (-5), some 15⟩

/-- Numbers without any scientific notation. -/
def Layout.positional : Layout := ⟨none, none⟩

/-- Whether a decimal exponent is written positionally. -/
def Layout.isPositional (layout : Layout) (exponent : Int) : Bool :=
  layout.least.all (· ≤ exponent) && layout.greatest.all (exponent ≤ ·)

/-- A row of zeros. -/
def zeros (count : Nat) : List Char := List.replicate count '0'

/-- A decimal with its point at the place, and a zero where one side of it is empty. -/
def positionalText (digits : List Char) (exponent : Int) : List Char :=
  if 0 ≤ exponent then digits ++ zeros exponent.toNat ++ ['.', '0']
  else
    let places := exponent.natAbs
    if places < digits.length then
      digits.take (digits.length - places) ++ '.' :: digits.drop (digits.length - places)
    else '0' :: '.' :: zeros (places - digits.length) ++ digits

/-- A decimal with one digit before the point, and the exponent with its sign. -/
def scientificText (digits : List Char) (leading : Int) : List Char :=
  let mantissa :=
    match digits with
    | [] => []
    | [d] => [d]
    | d :: rest => d :: '.' :: rest
  let sign := if leading < 0 then '-' else '+'
  mantissa ++ 'e' :: sign :: Nat.toDigits 10 leading.natAbs

/-- A double under a layout. -/
def Binary64.text (layout : Layout) (negative : Bool) (x : Binary64) : List Char :=
  let sign := if negative then ['-'] else []
  if x.isZero then sign ++ ['0', '.', '0']
  else
    let d := x.shortest
    let digits := Nat.toDigits 10 d.digits
    let leading := d.exponent + digits.length - 1
    sign ++ if layout.isPositional leading then positionalText digits d.exponent
      else scientificText digits leading

end ClientGen.Decimal
