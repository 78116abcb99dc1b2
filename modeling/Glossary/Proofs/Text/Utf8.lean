import Glossary.Text.Utf8

/-!
# The text that bytes begin with

Bytes that are not UTF-8 still begin with texts, among them the empty one. A
character is told by the first bytes of its encoding, so of two texts that the same
bytes begin with one begins the other, and there is a longest one. Decoding one
character after the other, as long as that goes, finds it.

## Main results

* `beginsWith_cons_iff` — a text that bytes begin with is told character by character.
* `longestText_iff` — decoding finds the longest text that bytes begin with.
-/

namespace Glossary.Text

/-- The bytes begin with the encoding of a text. -/
def BeginsWith (bytes : ByteArray) (s : List Char) : Prop := ∃ rest, bytes = s.utf8Encode ++ rest

theorem beginsWith_nil (bytes : ByteArray) : BeginsWith bytes [] :=
  ⟨bytes, by rw [List.utf8Encode_nil, ByteArray.empty_append]⟩

/-- The first character is the one that is decoded, and the others follow its bytes. -/
theorem beginsWith_cons_iff {bytes : ByteArray} {c : Char} {s : List Char} :
    BeginsWith bytes (c :: s) ↔ bytes.utf8DecodeChar? 0 = some c ∧
      BeginsWith (bytes.extract c.utf8Size bytes.size) s := by
  have hsize : [c].utf8Encode.size = c.utf8Size := by
    simp [List.utf8Encode_singleton]
  constructor
  · rintro ⟨rest, rfl⟩
    rw [List.utf8Encode_cons, ByteArray.append_assoc]
    refine ⟨List.utf8DecodeChar?_utf8Encode_singleton_append, rest, ?_⟩
    exact ByteArray.extract_append_eq_right hsize.symm ByteArray.size_append
  · rintro ⟨hdecode, rest, hrest⟩
    refine ⟨rest, ?_⟩
    rw [List.utf8Encode_cons, ByteArray.append_assoc, ← hrest, List.utf8Encode_singleton]
    exact ByteArray.eq_of_utf8DecodeChar?_eq_some hdecode

/-- What is decoded from a place on, behind what was found before: a text that the bytes begin
with there, and that all other such texts begin. -/
theorem exists_decodeFrom (bytes : ByteArray) (start : Nat) (found : Array Char) :
    ∃ s, (decodeFrom bytes start found).toList = found.toList ++ s ∧
      BeginsWith (bytes.extract start bytes.size) s ∧
      ∀ t, BeginsWith (bytes.extract start bytes.size) t → t <+: s := by
  fun_induction decodeFrom bytes start found with
  | case1 start found c hdecode ih =>
      obtain ⟨s, hs, hbegins, hlongest⟩ := ih
      have hle := ByteArray.le_size_of_utf8DecodeChar?_eq_some hdecode
      have hbehind : (bytes.extract start bytes.size).extract c.utf8Size
          (bytes.extract start bytes.size).size =
            bytes.extract (start + c.utf8Size) bytes.size := by
        rw [ByteArray.size_extract, Nat.min_self, ByteArray.extract_extract]
        congr 1
        omega
      rw [ByteArray.utf8DecodeChar?_eq_utf8DecodeChar?_extract] at hdecode
      refine ⟨c :: s, by simp [hs], ?_, ?_⟩
      · rw [beginsWith_cons_iff, hbehind]
        exact ⟨hdecode, hbegins⟩
      · intro t ht
        cases t with
        | nil => exact List.nil_prefix
        | cons d t =>
            rw [beginsWith_cons_iff, hdecode, Option.some.injEq] at ht
            obtain ⟨rfl, ht⟩ := ht
            rw [hbehind] at ht
            exact (List.prefix_cons_inj c).2 (hlongest t ht)
  | case2 start found hdecode =>
      refine ⟨[], (List.append_nil _).symm, beginsWith_nil _, ?_⟩
      intro t ht
      cases t with
      | nil => exact List.nil_prefix
      | cons d t =>
          rw [beginsWith_cons_iff, ← ByteArray.utf8DecodeChar?_eq_utf8DecodeChar?_extract,
            hdecode] at ht
          cases ht.1

/-- The text of the longest beginning of bytes that is valid UTF-8. -/
structure LongestText (bytes : ByteArray) (s : List Char) : Prop where
  begins : ∃ rest, bytes = s.utf8Encode ++ rest
  longest : ∀ valid rest : ByteArray, bytes = valid ++ rest → valid.IsValidUTF8 →
    valid.size ≤ s.utf8Encode.size

/-- Decoding finds the longest text that bytes begin with, and there is no other. -/
theorem longestText_iff {bytes : ByteArray} {s : List Char} :
    LongestText bytes s ↔ s = validPrefix bytes := by
  obtain ⟨decoded, hdecoded, hbegins, hlongest⟩ := exists_decodeFrom bytes 0 #[]
  rw [ByteArray.extract_zero_size] at hbegins hlongest
  have hvalid : validPrefix bytes = decoded := hdecoded
  rw [hvalid]
  constructor
  · intro h
    obtain ⟨more, rfl⟩ := hlongest s h.begins
    obtain ⟨rest, hrest⟩ := hbegins
    have hsize := h.longest _ rest hrest ⟨s ++ more, rfl⟩
    rw [List.utf8Encode_append, ByteArray.size_append] at hsize
    have hempty : more.utf8Encode = .empty := ByteArray.size_eq_zero_iff.1 (by omega)
    rw [List.utf8Encode_eq_empty] at hempty
    rw [hempty, List.append_nil]
  · rintro rfl
    refine ⟨hbegins, ?_⟩
    rintro valid rest hbytes ⟨t, rfl⟩
    obtain ⟨more, rfl⟩ := hlongest t ⟨rest, hbytes⟩
    rw [List.utf8Encode_append, ByteArray.size_append]
    exact Nat.le_add_right _ _

end Glossary.Text
