import Glossary.Proofs.Text.Slice
import Mathlib.Data.List.Basic

/-!
# The longest beginning within some bytes

A text that is too long is cut behind the last character that fits. That place is
found from the limit: where the limit is inside a character, one byte after the
other is given up until the bytes end with a character. Byte 0 is a place between
characters in every text, so the way back ends there at the latest. It ends much
earlier, since no character has more than four bytes.

The boundaries of a text are the lengths of its beginnings. So the last boundary up to
the limit is the length of the longest beginning that fits, and the slice up to there
is that beginning.

## Main results

* `isValid_iff_exists_beginning` — the boundaries are the lengths of beginnings.
* `exists_lastBoundary?` — the way back always ends.
* `LongestWithin.lastBoundary?_eq` — that is the end of the longest beginning.
-/

namespace Glossary.Text

/-! ## Beginnings within a limit -/

/-- The longest beginning of a text that has at most so many bytes. -/
structure LongestWithin (limit : Nat) (s p : List Char) : Prop where
  begins : p <+: s
  fits : byteLength p ≤ limit
  longest : ∀ q, q <+: s → byteLength q ≤ limit → q <+: p

namespace LongestWithin

variable {limit : Nat} {s p q : List Char}

theorem unique (hp : LongestWithin limit s p) (hq : LongestWithin limit s q) : p = q := by
  have hpq : p <+: q := hq.longest p hp.begins hp.fits
  have hqp : q <+: p := hp.longest q hq.begins hq.fits
  exact hpq.eq_of_length_le hqp.length_le

/-- A text that is too long has a next character, which does not fit and has at most four bytes. -/
theorem lt_add_four (h : LongestWithin limit s p) (hlong : limit < byteLength s) :
    limit < byteLength p + 4 := by
  obtain ⟨r, rfl⟩ := h.begins
  cases r with
  | nil =>
      have hfits := h.fits
      rw [List.append_nil] at hlong
      omega
  | cons c r =>
      have hnext : limit < byteLength (p ++ [c]) := by
        by_contra hle
        have hprefix := h.longest (p ++ [c]) ⟨r, by simp⟩ (Nat.not_lt.1 hle)
        have hlength := hprefix.length_le
        rw [List.length_append, List.length_singleton] at hlength
        omega
      have hfour := c.utf8Size_le_four
      rw [byteLength_append, byteLength_cons, byteLength_nil] at hnext
      omega

/-- A character that fits is taken, and the rest has the room that it leaves. -/
theorem cons {c : Char} (hc : c.utf8Size ≤ limit) (h : LongestWithin (limit - c.utf8Size) s p) :
    LongestWithin limit (c :: s) (c :: p) where
  begins := (List.prefix_cons_inj c).2 h.begins
  fits := by
    have hfits := h.fits
    rw [byteLength_cons]
    omega
  longest q hq hle := by
    cases q with
    | nil => exact List.nil_prefix
    | cons d q =>
        obtain ⟨rfl, hrest⟩ := List.cons_prefix_cons.1 hq
        rw [byteLength_cons] at hle
        exact (List.prefix_cons_inj d).2 (h.longest q hrest (by omega))

/-- Behind a character that does not fit nothing is taken. -/
theorem stop {c : Char} (hc : limit < c.utf8Size) : LongestWithin limit (c :: s) [] where
  begins := List.nil_prefix
  fits := Nat.zero_le _
  longest q hq hle := by
    cases q with
    | nil => exact List.nil_prefix
    | cons d q =>
        obtain ⟨rfl, -⟩ := List.cons_prefix_cons.1 hq
        rw [byteLength_cons] at hle
        omega

theorem nil : LongestWithin limit [] [] where
  begins := List.nil_prefix
  fits := Nat.zero_le _
  longest _ hq _ := hq

end LongestWithin

/-! ## The way back to a boundary -/

/-- Goes back from a byte to the next boundary of characters. There is nothing below byte 0. -/
def lastBoundary? (text : String) : Nat → Option Nat
  | 0 => if String.Pos.Raw.isValid text ⟨0⟩ then some 0 else none
  | byte + 1 =>
      if String.Pos.Raw.isValid text ⟨byte + 1⟩ then some (byte + 1) else lastBoundary? text byte

theorem lastBoundary?_of_isValid {text : String} {byte : Nat}
    (h : String.Pos.Raw.IsValid text ⟨byte⟩) : lastBoundary? text byte = some byte := by
  cases byte with
  | zero => exact if_pos (String.Pos.Raw.isValid_eq_true_iff.2 h)
  | succ byte => exact if_pos (String.Pos.Raw.isValid_eq_true_iff.2 h)

theorem lastBoundary?_of_not_isValid {text : String} {byte : Nat}
    (h : ¬String.Pos.Raw.IsValid text ⟨byte + 1⟩) :
    lastBoundary? text (byte + 1) = lastBoundary? text byte :=
  if_neg (mt String.Pos.Raw.isValid_eq_true_iff.1 h)

/-- The way back ends at the last boundary that is not behind its start. -/
theorem lastBoundary?_eq_some {text : String} {start cut : Nat}
    (hvalid : String.Pos.Raw.IsValid text ⟨cut⟩) (hle : cut ≤ start)
    (hbehind : ∀ byte, cut < byte → byte ≤ start → ¬String.Pos.Raw.IsValid text ⟨byte⟩) :
    lastBoundary? text start = some cut := by
  induction hle with
  | refl => exact lastBoundary?_of_isValid hvalid
  | step hle ih =>
      rw [lastBoundary?_of_not_isValid (hbehind _ (Nat.lt_succ_of_le hle) (Nat.le_refl _))]
      exact ih fun byte hlt hbyte => hbehind byte hlt (Nat.le_succ_of_le hbyte)

/-- It always ends at one, since byte 0 is a boundary. -/
theorem exists_lastBoundary? (text : String) (start : Nat) :
    ∃ cut, lastBoundary? text start = some cut ∧ cut ≤ start ∧
      String.Pos.Raw.IsValid text ⟨cut⟩ := by
  induction start with
  | zero =>
      have hzero : String.Pos.Raw.IsValid text ⟨0⟩ := String.Pos.Raw.isValid_zero
      exact ⟨0, lastBoundary?_of_isValid hzero, Nat.le_refl _, hzero⟩
  | succ start ih =>
      by_cases hvalid : String.Pos.Raw.IsValid text ⟨start + 1⟩
      · exact ⟨start + 1, lastBoundary?_of_isValid hvalid, Nat.le_refl _, hvalid⟩
      · obtain ⟨cut, hcut, hle, hboundary⟩ := ih
        rw [lastBoundary?_of_not_isValid hvalid]
        exact ⟨cut, hcut, Nat.le_succ_of_le hle, hboundary⟩

/-- From inside a letter it goes back to its start, and from behind the text to the end. -/
example : lastBoundary? "aéb" 2 = some 1 ∧ lastBoundary? "aéb" 9 = some 4 := by
  decide

/-- The boundaries of a text are the lengths of its beginnings. -/
theorem isValid_iff_exists_beginning {text : String} {byte : Nat} :
    String.Pos.Raw.IsValid text ⟨byte⟩ ↔ ∃ q, q <+: text.toList ∧ byteLength q = byte := by
  rw [String.Pos.Raw.isValid_iff_exists_append]
  constructor
  · rintro ⟨before, after, rfl, hbyte⟩
    refine ⟨before.toList, ⟨after.toList, String.toList_append.symm⟩, ?_⟩
    rw [byteLength_toList]
    exact (congrArg String.Pos.Raw.byteIdx hbyte).symm
  · rintro ⟨q, ⟨r, hqr⟩, rfl⟩
    refine ⟨String.ofList q, String.ofList r, ?_, ?_⟩
    · rw [← String.ofList_append, hqr, String.ofList_toList]
    · rw [String.Pos.Raw.ext_iff, String.byteIdx_rawEndPos, utf8ByteSize_ofList]

/-- The way back ends where the longest beginning within the limit does. -/
theorem LongestWithin.lastBoundary?_eq {text : String} {limit : Nat} {p : List Char}
    (h : LongestWithin limit text.toList p) : lastBoundary? text limit = some (byteLength p) := by
  refine lastBoundary?_eq_some (isValid_iff_exists_beginning.2 ⟨p, h.begins, rfl⟩) h.fits ?_
  intro byte hlt hle hvalid
  obtain ⟨q, hq, rfl⟩ := isValid_iff_exists_beginning.1 hvalid
  obtain ⟨r, rfl⟩ := h.longest q hq hle
  rw [byteLength_append] at hlt
  omega

/-- And the slice up to there is the beginning. -/
theorem LongestWithin.slice?_eq {text : String} {limit : Nat} {p : List Char}
    (h : LongestWithin limit text.toList p) :
    slice? text 0 (byteLength p) = some (String.ofList p) := by
  obtain ⟨r, hr⟩ := h.begins
  exact slice?_zero_of_toList_eq hr.symm

end Glossary.Text
