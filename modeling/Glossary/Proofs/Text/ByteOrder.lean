import Mathlib.Data.Char

/-!
# The order of texts and the order of their bytes

Texts are compared character by character, and stored as bytes. The encoding keeps
the order: a character that takes more bytes starts with a greater one, and of two
characters that take equally many the bytes are digits of their numbers, the
highest first. So comparing the bytes of two texts is comparing the texts.

## Main results

* `compare_encodings` — the bytes of a smaller character are smaller, whatever follows.
* `compare_bytes` — comparing bytes is comparing characters.
-/

namespace Glossary.Text

/-- The bytes of a text, in UTF-8. -/
def bytes (s : List Char) : List UInt8 := s.flatMap String.utf8EncodeChar

theorem bytes_cons (c : Char) (s : List Char) :
    bytes (c :: s) = String.utf8EncodeChar c ++ bytes s :=
  List.flatMap_cons

theorem bytes_ne_nil (c : Char) (s : List Char) : bytes (c :: s) ≠ [] := by
  rw [bytes_cons]
  intro h
  exact String.utf8EncodeChar_ne_nil (List.append_eq_nil_iff.1 h).1

/-- The bytes of a character are digits of its number, the first of them above those of
every shorter encoding. -/
theorem encoding_cases (c : Char) :
    (c.toNat < 0x80 ∧ String.utf8EncodeChar c = [UInt8.ofNat c.toNat]) ∨
    (0x80 ≤ c.toNat ∧ c.toNat < 0x800 ∧ String.utf8EncodeChar c =
      [UInt8.ofNat (c.toNat / 64 + 0xC0), UInt8.ofNat (c.toNat % 64 + 0x80)]) ∨
    (0x800 ≤ c.toNat ∧ c.toNat < 0x10000 ∧ String.utf8EncodeChar c =
      [UInt8.ofNat (c.toNat / 4096 + 0xE0), UInt8.ofNat (c.toNat / 64 % 64 + 0x80),
        UInt8.ofNat (c.toNat % 64 + 0x80)]) ∨
    (0x10000 ≤ c.toNat ∧ c.toNat < 0x110000 ∧ String.utf8EncodeChar c =
      [UInt8.ofNat (c.toNat / 262144 + 0xF0), UInt8.ofNat (c.toNat / 4096 % 64 + 0x80),
        UInt8.ofNat (c.toNat / 64 % 64 + 0x80), UInt8.ofNat (c.toNat % 64 + 0x80)]) := by
  have hlt : c.toNat < 0x110000 := by
    rcases c.valid with h | h
    · exact Nat.lt_trans h (by decide)
    · exact h.2
  simp only [String.utf8EncodeChar, ← Char.toNat.eq_1]
  split
  · exact .inl ⟨by omega, rfl⟩
  · split
    · refine .inr (.inl ⟨by omega, by omega, ?_⟩)
      rw [Nat.mod_eq_of_lt (show c.toNat / 64 < 32 by omega)]
    · split
      · refine .inr (.inr (.inl ⟨by omega, by omega, ?_⟩))
        rw [Nat.mod_eq_of_lt (show c.toNat / 4096 < 16 by omega)]
      · refine .inr (.inr (.inr ⟨by omega, hlt, ?_⟩))
        rw [Nat.mod_eq_of_lt (show c.toNat / 262144 < 8 by omega)]

/-- More bytes, and a greater first one. -/
example : bytes ['z', 'é', '€', '😀'] =
    [0x7A, 0xC3, 0xA9, 0xE2, 0x82, 0xAC, 0xF0, 0x9F, 0x98, 0x80] := by
  decide

/-- The first byte that differs decides. -/
theorem compare_digits {m n : Nat} {x y : List UInt8} (hle : m ≤ n) (hn : n < 256)
    (h : m = n → compare x y = .lt) :
    compare (UInt8.ofNat m :: x) (UInt8.ofNat n :: y) = .lt := by
  rw [List.compare_cons_cons]
  rcases Nat.lt_or_eq_of_le hle with hlt | heq
  · have hbyte : UInt8.ofNat m < UInt8.ofNat n := by
      rw [UInt8.lt_iff_toNat_lt, UInt8.toNat_ofNat_of_lt' (Nat.lt_trans hlt hn),
        UInt8.toNat_ofNat_of_lt' hn]
      exact hlt
    rw [Std.compare_eq_lt.2 hbyte]
    rfl
  · rw [heq, Std.ReflOrd.compare_self]
    exact h heq

/-- The bytes of a smaller character are smaller, whatever follows. -/
theorem compare_encodings {c d : Char} (h : c < d) (x y : List UInt8) :
    compare (String.utf8EncodeChar c ++ x) (String.utf8EncodeChar d ++ y) = .lt := by
  have hlt : c.toNat < d.toNat := h
  -- the first bytes tell lengths apart, and with one length the digits decide in turn
  rcases encoding_cases c with ⟨hc, ec⟩ | ⟨hc, hc', ec⟩ | ⟨hc, hc', ec⟩ | ⟨hc, hc', ec⟩
  · rcases encoding_cases d with ⟨hd, ed⟩ | ⟨hd, hd', ed⟩ | ⟨hd, hd', ed⟩ | ⟨hd, hd', ed⟩ <;>
      rw [ec, ed] <;>
      exact compare_digits (by omega) (by omega) fun _ => by omega
  · rcases encoding_cases d with ⟨hd, ed⟩ | ⟨hd, hd', ed⟩ | ⟨hd, hd', ed⟩ | ⟨hd, hd', ed⟩
    · omega
    · rw [ec, ed]
      exact compare_digits (by omega) (by omega) fun _ =>
        compare_digits (by omega) (by omega) fun _ => by omega
    all_goals
      rw [ec, ed]
      exact compare_digits (by omega) (by omega) fun _ => by omega
  · rcases encoding_cases d with ⟨hd, ed⟩ | ⟨hd, hd', ed⟩ | ⟨hd, hd', ed⟩ | ⟨hd, hd', ed⟩
    · omega
    · omega
    · rw [ec, ed]
      exact compare_digits (by omega) (by omega) fun _ =>
        compare_digits (by omega) (by omega) fun _ =>
          compare_digits (by omega) (by omega) fun _ => by omega
    · rw [ec, ed]
      exact compare_digits (by omega) (by omega) fun _ => by omega
  · rcases encoding_cases d with ⟨hd, ed⟩ | ⟨hd, hd', ed⟩ | ⟨hd, hd', ed⟩ | ⟨hd, hd', ed⟩
    · omega
    · omega
    · omega
    · rw [ec, ed]
      exact compare_digits (by omega) (by omega) fun _ =>
        compare_digits (by omega) (by omega) fun _ =>
          compare_digits (by omega) (by omega) fun _ =>
            compare_digits (by omega) (by omega) fun _ => by omega

theorem compare_append_left (p x y : List UInt8) : compare (p ++ x) (p ++ y) = compare x y := by
  induction p with
  | nil => rfl
  | cons b p ih =>
      rw [List.cons_append, List.cons_append, List.compare_cons_cons, Std.ReflOrd.compare_self]
      exact ih

/-- Comparing the bytes of texts is comparing their characters. -/
theorem compare_bytes (s t : List Char) : compare (bytes s) (bytes t) = compare s t := by
  induction s generalizing t with
  | nil =>
      cases t with
      | nil => rfl
      | cons d t =>
          obtain ⟨b, more, hb⟩ := List.exists_cons_of_ne_nil (bytes_ne_nil d t)
          rw [hb]
          rfl
  | cons c s ih =>
      cases t with
      | nil =>
          obtain ⟨b, more, hb⟩ := List.exists_cons_of_ne_nil (bytes_ne_nil c s)
          rw [hb]
          rfl
      | cons d t =>
          rw [bytes_cons, bytes_cons, List.compare_cons_cons]
          rcases lt_trichotomy c d with hlt | rfl | hgt
          · rw [compare_encodings hlt, compare_lt_iff_lt.2 hlt]
            rfl
          · rw [compare_append_left, ih, Std.ReflOrd.compare_self]
            rfl
          · rw [Std.OrientedOrd.eq_swap, compare_encodings hgt, compare_gt_iff_gt.2 hgt]
            rfl

end Glossary.Text
