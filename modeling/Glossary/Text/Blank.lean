/-!
# Blank characters and trimming

A character is blank when Unicode gives it the property White_Space. The set is closed and
small, so it is written out as ranges. Everything that separates tokens, ends a heading or
surrounds a description uses this one set; zero-width characters and the byte-order mark are
not in it, and therefore count as text.

## Main results

* `isBlank_of_isWhitespace` — every character that core calls whitespace is blank.
* `trimStart_eq_self` — trimming keeps a text that does not start with a blank.
-/

namespace Glossary.Text

/-- The characters with the Unicode property White_Space. -/
def isBlank (c : Char) : Bool :=
  let n := c.toNat
  (9 ≤ n && n ≤ 13) || n == 0x20 || n == 0x85 || n == 0xA0 || n == 0x1680 ||
    (0x2000 ≤ n && n ≤ 0x200A) || n == 0x2028 || n == 0x2029 || n == 0x202F ||
    n == 0x205F || n == 0x3000

theorem isBlank_of_isWhitespace {c : Char} (h : c.isWhitespace = true) : isBlank c = true := by
  simp only [Char.isWhitespace, Bool.or_eq_true, decide_eq_true_eq] at h
  rcases h with ((rfl | rfl) | rfl) | rfl <;> decide

/-- Drops the blanks at the start of a text. -/
def trimStart (s : List Char) : List Char := s.dropWhile isBlank

/-- Drops the blanks at the end of a text. -/
def trimEnd (s : List Char) : List Char := (s.reverse.dropWhile isBlank).reverse

/-- Drops the blanks at both ends of a text. -/
def trim (s : List Char) : List Char := trimEnd (trimStart s)

/-- Blank texts are the empty one and those made of blanks only. -/
def allBlank (s : List Char) : Bool := s.all isBlank

@[simp] theorem trimStart_nil : trimStart [] = [] := rfl

@[simp] theorem trimEnd_nil : trimEnd [] = [] := rfl

theorem trimStart_eq_self {c : Char} {s : List Char} (h : isBlank c = false) :
    trimStart (c :: s) = c :: s := by
  simp [trimStart, h]

/-- A text begins with the given opening once its leading blanks are dropped. -/
def opensWith (opening s : List Char) : Bool := opening.isPrefixOf (trimStart s)

end Glossary.Text
