/-!
# Valid beginnings of bytes

How far bytes can be read as UTF-8. Bytes that are not a text still begin with one, which tells
where the first byte stands that cannot be read.

## Main results

* `validPrefix_empty` — no bytes hold no characters.
-/

namespace Glossary.Text

/-- The characters of the longest text that starts at a byte, behind those already found. -/
def decodeFrom (bytes : ByteArray) (start : Nat) (found : Array Char) : Array Char :=
  match _h : bytes.utf8DecodeChar? start with
  | some c => decodeFrom bytes (start + c.utf8Size) (found.push c)
  | none => found
termination_by bytes.size - start
decreasing_by
  have := ByteArray.le_size_of_utf8DecodeChar?_eq_some _h
  have := c.utf8Size_pos
  omega

/-- The characters of the longest text that bytes begin with. -/
def validPrefix (bytes : ByteArray) : List Char := (decodeFrom bytes 0 #[]).toList

theorem validPrefix_empty : validPrefix .empty = [] := by
  rw [validPrefix, decodeFrom]
  rfl

end Glossary.Text
