import Glossary.Json.Reader
import Glossary.Proofs.Text.Lines

/-!
# Reading counts

The only numbers that are written are counts, as their decimal digits. A number has no mark at its
end: it goes on as long as a digit, a point or the letter of an exponent follows. So a count is
read back where it is parted from what follows. It has no zero in front, unless it is zero, and
its digits write it.

## Main results

* `Reader.number_toDigits` — the digits of a count are read back.
* `Text.decimal?_toString` — they write the count.
-/

namespace Glossary

namespace Text

theorem ofDigits_toDigits (n : Nat) : ofDigits 10 (Nat.toDigits 10 n) = n := by
  have hvalue : ∀ d < 10, (hexValue? (Nat.digitChar d)).getD 0 = d := by decide
  induction n using Nat.strongRecOn with
  | ind n ih =>
      rcases Nat.lt_or_ge n 10 with hlt | hge
      · rw [Nat.toDigits_of_lt_base hlt]
        simp [ofDigits, hvalue n hlt]
      · rw [Nat.toDigits_of_base_le (by decide) hge, ofDigits_append, ih (n / 10) (by omega),
          hvalue (n % 10) (by omega), Nat.div_add_mod']

/-- The digits of a count write it. -/
theorem decimal?_toString (n : Nat) : decimal? (toString n).toList = some n := by
  have hdigits : (toString n).toList = Nat.toDigits 10 n := by
    rw [Nat.toString_eq_repr, Nat.toList_repr]
  have hall : (toString n).toList.all Char.isDigit = true :=
    List.all_eq_true.2 fun c => isDigit_of_mem_toString
  have hne : (toString n).toList ≠ [] := hdigits ▸ Nat.toDigits_ne_nil
  rw [decimal?, if_pos ⟨hne, hall⟩, hdigits, ofDigits_toDigits]

end Text

namespace Json.Reader

/-- What follows does not carry a number on. -/
def Parted (rest : List Char) : Prop :=
  ∀ c, rest.head? = some c → c.isDigit = false ∧ c ≠ '.' ∧ c ≠ 'e' ∧ c ≠ 'E'

theorem parted_nil : Parted [] := nofun

theorem parted_cons {c : Char} (h : c.isDigit = false ∧ c ≠ '.' ∧ c ≠ 'e' ∧ c ≠ 'E')
    (rest : List Char) : Parted (c :: rest) := by
  rintro d ⟨⟩
  exact h

theorem isDigit_of_mem_toDigits {n : Nat} {c : Char} (h : c ∈ Nat.toDigits 10 n) :
    c.isDigit = true :=
  Nat.isDigit_of_mem_toDigits (by decide) (by decide) h

theorem exists_toDigits (n : Nat) :
    ∃ d ds, Nat.toDigits 10 n = d :: ds ∧ d.isDigit = true := by
  cases hds : Nat.toDigits 10 n with
  | nil => exact absurd hds Nat.toDigits_ne_nil
  | cons d ds =>
      refine ⟨d, ds, rfl, isDigit_of_mem_toDigits (n := n) ?_⟩
      rw [hds]
      exact List.mem_cons_self

theorem ne_of_isDigit {c d : Char} (hd : d.isDigit = true) (hc : c.isDigit = false) : d ≠ c := by
  rintro rfl
  rw [hd] at hc
  cases hc

theorem isBlank_of_isDigit {c : Char} (h : c.isDigit = true) : isBlank c = false := by
  have hne : ∀ d, d.isDigit = false → c ≠ d := fun d => ne_of_isDigit h
  simp [isBlank, hne ' ' rfl, hne '\n' rfl, hne '\r' rfl, hne '\t' rfl]

/-- Only the count zero has a zero in front. -/
theorem head_toDigits_ne {n : Nat} (hn : n ≠ 0) : (Nat.toDigits 10 n).head? ≠ some '0' := by
  induction n using Nat.strongRecOn with
  | ind n ih =>
      rcases Nat.lt_or_ge n 10 with hlt | hge
      · have hdigit : ∀ d < 10, d ≠ 0 → ¬some (Nat.digitChar d) = some '0' := by decide
        rw [Nat.toDigits_of_lt_base hlt]
        exact hdigit n hlt hn
      · have hfront := ih (n / 10) (by omega) (by omega)
        rw [Nat.toDigits_of_base_le (by decide) hge, List.head?_append]
        cases hhead : (Nat.toDigits 10 (n / 10)).head? with
        | none => exact absurd (List.head?_eq_none_iff.1 hhead) Nat.toDigits_ne_nil
        | some d => rwa [hhead] at hfront

/-- A run of digits is read up to what parts it. -/
theorem digits_append {ds rest : List Char} (hne : ds ≠ []) (h : ∀ c ∈ ds, c.isDigit = true)
    (hrest : Parted rest) : digits (ds ++ rest) = some (ds, rest) := by
  obtain ⟨htake, hdrop⟩ := Text.run_eq h fun c hc => (hrest c hc).1
  simp only [digits, htake, hdrop]
  rw [if_neg hne]

theorem whole_toDigits (n : Nat) {rest : List Char} (h : Parted rest) :
    whole (Nat.toDigits 10 n ++ rest) = some (Nat.toDigits 10 n, rest) := by
  by_cases hn : n = 0
  · subst hn
    have hstop : rest.head?.any Char.isDigit = false := by
      cases hhead : rest.head? with
      | none => rfl
      | some c => exact (h c hhead).1
    show (if rest.head?.any Char.isDigit then none else some (['0'], rest)) = _
    rw [hstop]
    rfl
  · have hfront := head_toDigits_ne hn
    have hdigits := digits_append Nat.toDigits_ne_nil (fun c => isDigit_of_mem_toDigits (n := n)) h
    obtain ⟨d, ds, hds, -⟩ := exists_toDigits n
    rw [hds] at hfront hdigits ⊢
    rw [List.cons_append] at hdigits ⊢
    unfold whole
    split
    · next r hzero => exact absurd (congrArg some (List.cons.inj hzero).1) hfront
    · exact hdigits

theorem fraction_parted {rest : List Char} (h : Parted rest) : fraction rest = some ([], rest) := by
  unfold fraction
  split
  · next r => exact absurd rfl (h '.' rfl).2.1
  · rfl

theorem exponent_parted {rest : List Char} (h : Parted rest) : exponent rest = some ([], rest) := by
  cases rest with
  | nil => rfl
  | cons c r =>
      obtain ⟨-, -, hsmall, hcapital⟩ := h c rfl
      unfold exponent
      exact if_neg fun hletter => hletter.elim hsmall hcapital

/-- The digits of a count are read back. -/
theorem number_toDigits (n : Nat) {rest : List Char} (h : Parted rest) :
    number (Nat.toDigits 10 n ++ rest) = some (Nat.toDigits 10 n, rest) := by
  have hwhole := whole_toDigits n h
  obtain ⟨d, ds, hds, hd⟩ := exists_toDigits n
  rw [hds, List.cons_append] at hwhole ⊢
  rw [number, hwhole]
  · simp [fraction_parted h, exponent_parted h]
  · intro r hr
    exact ne_of_isDigit hd (by decide) (List.cons.inj hr).1

end Json.Reader

end Glossary
