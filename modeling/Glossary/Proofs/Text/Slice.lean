import Glossary.Token

/-!
# Bytes and parts of a text

A text has two kinds of offsets: those that count its characters and those that
count its bytes. Not every byte is a place between two characters, so the part of
a text between two bytes is there only if both are such places, in order. How
many characters come before a byte is asked in the same way.

Where a text is put together from parts, the ends of the parts are places between
characters, and cutting there gives the parts back.

## Main results

* `byteLength_toList` — the bytes of a text are those of its characters.
* `slice?_of_toList_eq` — a part of a text is what stands between its bytes.
* `charsBefore?_of_toList_eq` — the characters before the byte behind some characters.
-/

namespace Glossary

/-! ## The bytes of characters -/

private theorem foldl_utf8Size (t : List Char) (n : Nat) :
    t.foldl (fun n c => n + c.utf8Size) n = n + byteLength t := by
  induction t generalizing n with
  | nil => rfl
  | cons c t ih =>
      simp only [byteLength, List.foldl_cons]
      rw [ih, ih (0 + c.utf8Size)]
      omega

theorem byteLength_append (s t : List Char) :
    byteLength (s ++ t) = byteLength s + byteLength t := by
  show (s ++ t).foldl _ 0 = _
  rw [List.foldl_append, foldl_utf8Size t]
  rfl

theorem byteLength_nil : byteLength [] = 0 := rfl

theorem byteLength_cons (c : Char) (s : List Char) :
    byteLength (c :: s) = c.utf8Size + byteLength s := by
  rw [← List.singleton_append, byteLength_append]
  show 0 + c.utf8Size + byteLength s = _
  omega

theorem byteLength_replicate (n : Nat) (c : Char) :
    byteLength (List.replicate n c) = n * c.utf8Size := by
  induction n with
  | zero => rw [List.replicate_zero, Nat.zero_mul, byteLength_nil]
  | succ n ih =>
      rw [List.replicate_succ, byteLength_cons, ih, Nat.succ_mul, Nat.add_comm]

/-- Characters of one byte each are as many bytes. -/
theorem byteLength_replicate_of_one {c : Char} (h : c.utf8Size = 1) (n : Nat) :
    byteLength (List.replicate n c) = n := by
  rw [byteLength_replicate, h, Nat.mul_one]

theorem utf8ByteSize_ofList (s : List Char) : (String.ofList s).utf8ByteSize = byteLength s := by
  induction s with
  | nil => rfl
  | cons c s ih =>
      have hcons : String.ofList (c :: s) = String.singleton c ++ String.ofList s := by
        rw [← String.toList_inj]
        simp
      rw [hcons, String.utf8ByteSize_append, String.utf8ByteSize_singleton, ih, byteLength_cons]

/-- The bytes of a text are those of its characters. -/
theorem byteLength_toList (text : String) : byteLength text.toList = text.utf8ByteSize := by
  rw [← utf8ByteSize_ofList, String.ofList_toList]

theorem length_le_byteLength (s : List Char) : s.length ≤ byteLength s := by
  induction s with
  | nil => exact Nat.le_refl _
  | cons c s ih =>
      have hpos := c.utf8Size_pos
      rw [byteLength_cons, List.length_cons]
      omega

/-- A text has at least as many bytes as characters. -/
theorem length_toList_le (text : String) : text.toList.length ≤ text.utf8ByteSize := by
  rw [← byteLength_toList]
  exact length_le_byteLength _

namespace Text

/-! ## Parts between bytes -/

/-- The part of a text between two bytes, if both are boundaries of characters and the first
does not come behind the second. -/
def slice? (text : String) (start stop : Nat) : Option String :=
  if h : String.Pos.Raw.IsValid text ⟨start⟩ ∧ String.Pos.Raw.IsValid text ⟨stop⟩ ∧
      start ≤ stop then
    some (text.extract (text.pos ⟨start⟩ h.1) (text.pos ⟨stop⟩ h.2.1))
  else none

/-- The number of characters before a byte, if the byte is a boundary of characters. -/
def charsBefore? (text : String) (byte : Nat) : Option Nat :=
  (slice? text 0 byte).map fun part => part.toList.length

/-- A text is cut only at boundaries. -/
theorem isValid_of_slice? {text part : String} {start stop : Nat}
    (h : slice? text start stop = some part) :
    String.Pos.Raw.IsValid text ⟨start⟩ ∧ String.Pos.Raw.IsValid text ⟨stop⟩ ∧
      start ≤ stop := by
  unfold slice? at h
  split at h
  · next hvalid => exact hvalid
  · contradiction

/-- A part of a text is cut out between its first byte and the one behind it. -/
theorem slice?_append (before part after : String) :
    slice? (before ++ (part ++ after)) before.utf8ByteSize
      (before.utf8ByteSize + part.utf8ByteSize) = some part := by
  have hstart : String.Pos.Raw.IsValid (before ++ (part ++ after)) ⟨before.utf8ByteSize⟩ :=
    String.Pos.Raw.isValid_iff_exists_append.2 ⟨before, part ++ after, rfl, rfl⟩
  have hstop : String.Pos.Raw.IsValid (before ++ (part ++ after))
      ⟨before.utf8ByteSize + part.utf8ByteSize⟩ := by
    refine String.Pos.Raw.isValid_iff_exists_append.2 ⟨before ++ part, after, ?_, ?_⟩
    · rw [String.append_assoc]
    · rw [String.Pos.Raw.ext_iff, String.byteIdx_rawEndPos, String.utf8ByteSize_append]
  have hbytes : (before ++ (part ++ after)).toByteArray.extract (before.utf8ByteSize + 0)
      (before.utf8ByteSize + part.utf8ByteSize) = part.toByteArray := by
    rw [String.toByteArray_append, String.toByteArray_append,
      ByteArray.extract_append_size_add' String.size_toByteArray.symm]
    exact ByteArray.extract_append_eq_left String.size_toByteArray.symm
  rw [slice?, dif_pos ⟨hstart, hstop, Nat.le_add_right _ _⟩, Option.some.injEq]
  apply String.toByteArray_inj.1
  rw [String.toByteArray_extract]
  exact hbytes

/-- A part of the characters of a text is what stands between its bytes. -/
theorem slice?_of_toList_eq {text : String} {before part after : List Char}
    (h : text.toList = before ++ (part ++ after)) :
    slice? text (byteLength before) (byteLength before + byteLength part) =
      some (String.ofList part) := by
  have htext : text =
      String.ofList before ++ (String.ofList part ++ String.ofList after) := by
    rw [← String.ofList_append, ← String.ofList_append, ← h, String.ofList_toList]
  rw [← utf8ByteSize_ofList, ← utf8ByteSize_ofList, htext]
  exact slice?_append _ _ _

/-- A beginning of a text is what stands before the byte behind it. -/
theorem slice?_zero_of_toList_eq {text : String} {before after : List Char}
    (h : text.toList = before ++ after) :
    slice? text 0 (byteLength before) = some (String.ofList before) := by
  have hslice := @slice?_of_toList_eq text [] before after h
  rwa [byteLength_nil, Nat.zero_add] at hslice

/-- The byte behind some characters of a text has as many characters before it. -/
theorem charsBefore?_of_toList_eq {text : String} {before after : List Char}
    (h : text.toList = before ++ after) :
    charsBefore? text (byteLength before) = some before.length := by
  rw [charsBefore?, slice?_zero_of_toList_eq h, Option.map_some, String.toList_ofList]

/-- A letter of two bytes is not cut in the middle. -/
example : slice? "aéb" 1 3 = some "é" ∧ slice? "aéb" 1 2 = none ∧ slice? "aéb" 3 1 = none := by
  decide

end Text

end Glossary
