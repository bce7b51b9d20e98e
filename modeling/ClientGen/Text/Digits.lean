/-!
Digits and the numbers that they give.
-/
namespace ClientGen.Text

/-- The value of a hexadecimal digit of either case. -/
def hexValue? (c : Char) : Option Nat :=
  if c.isDigit then some (c.toNat - '0'.toNat)
  else if 'a' ≤ c ∧ c ≤ 'f' then some (c.toNat - 'a'.toNat + 10)
  else if 'A' ≤ c ∧ c ≤ 'F' then some (c.toNat - 'A'.toNat + 10)
  else none

def digitIn? (base : Nat) (c : Char) : Option Nat := (hexValue? c).filter (· < base)

/-- The number that digits give in a base, or none if one of them is no digit in it. -/
def numberIn? (base : Nat) (digits : List Char) : Option Nat :=
  digits.foldl (fun number c => do return (← number) * base + (← digitIn? base c)) (some 0)

/-- Where digits give a number on top of what is there, something is there and all are digits. -/
theorem isSome_of_foldl_digits {base : Nat} {start : Option Nat} {digits : List Char}
    (number : (digits.foldl (fun number c => do return (← number) * base + (← digitIn? base c))
      start).isSome = true) :
    start.isSome = true ∧ ∀ c ∈ digits, (digitIn? base c).isSome = true := by
  induction digits generalizing start with
  | nil => exact ⟨number, List.forall_mem_nil _⟩
  | cons c rest ih =>
    obtain ⟨first, others⟩ := ih number
    cases start with
    | none => cases first
    | some before =>
      refine ⟨rfl, List.forall_mem_cons.mpr ⟨?_, others⟩⟩
      cases known : digitIn? base c with
      | none => simp [known] at first
      | some digit => rfl

/-- Characters that give a number are digits. -/
theorem isSome_of_numberIn? {base : Nat} {digits : List Char}
    (number : numberIn? base digits = some n) : ∀ c ∈ digits, (digitIn? base c).isSome = true :=
  (isSome_of_foldl_digits (Option.isSome_of_eq_some number)).2

/-- A digit takes one byte. -/
theorem utf8Size_of_digitIn? {base : Nat} {c : Char} (known : (digitIn? base c).isSome = true) :
    c.utf8Size = 1 := by
  obtain ⟨value, known⟩ := Option.isSome_iff_exists.mp known
  have hex : hexValue? c = some value := (Option.filter_eq_some_iff.mp known).1
  have small : c ≤ 'f' := by
    unfold hexValue? at hex
    split at hex
    next digit =>
      obtain ⟨-, upTo⟩ : c.val ≥ 48 ∧ c.val ≤ 57 := by simpa [Char.isDigit] using digit
      exact UInt32.le_trans upTo (by decide)
    split at hex
    next lower => exact lower.2
    split at hex
    next upper => exact Char.le_trans upper.2 (by decide)
    next => cases hex
  exact if_pos (UInt32.le_trans small (by decide))

end ClientGen.Text
