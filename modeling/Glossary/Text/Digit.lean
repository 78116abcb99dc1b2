/-!
# Digits

The values of digits and the numbers that digits write, in any radix up to sixteen.

## Main results

* `ofDigits_append` — a number is read from its first digits on.
* `isDigit_of_mem_toString` — and written in digits.
-/

namespace Glossary.Text

/-- The value of a hexadecimal digit. -/
def hexValue? (c : Char) : Option Nat :=
  if '0' ≤ c ∧ c ≤ '9' then some (c.toNat - '0'.toNat)
  else if 'a' ≤ c ∧ c ≤ 'f' then some (c.toNat - 'a'.toNat + 10)
  else if 'A' ≤ c ∧ c ≤ 'F' then some (c.toNat - 'A'.toNat + 10)
  else none

/-- Whether a character is a digit of the radix. -/
def isDigitOf (radix : Nat) (c : Char) : Bool := (hexValue? c).any (· < radix)

/-- The number that digits write. -/
def ofDigits (radix : Nat) (digits : List Char) : Nat :=
  digits.foldl (fun n c => n * radix + (hexValue? c).getD 0) 0

@[simp] theorem ofDigits_nil (radix : Nat) : ofDigits radix [] = 0 := rfl

theorem ofDigits_append (radix : Nat) (ds : List Char) (c : Char) :
    ofDigits radix (ds ++ [c]) = ofDigits radix ds * radix + (hexValue? c).getD 0 := by
  simp [ofDigits]

/-- The number that a text of decimal digits writes; a text without digits writes none. -/
def decimal? (s : List Char) : Option Nat :=
  if s ≠ [] ∧ s.all Char.isDigit then some (ofDigits 10 s) else none

/-- Numbers are written in decimal digits. -/
theorem isDigit_of_mem_toString {n : Nat} {c : Char} (h : c ∈ (toString n).toList) :
    c.isDigit = true := by
  rw [Nat.toString_eq_repr, Nat.toList_repr] at h
  exact Nat.isDigit_of_mem_toDigits (by decide) (by decide) h

end Glossary.Text
