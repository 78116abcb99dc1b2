import Glossary.Unicode.Property

/-!
# Quoted text

The form in which messages show a text that may hold anything: between double quotes, with
quotes and backslashes behind a backslash, and with every character that would not show spelled
out. It keeps a message on one line.

## Main results

* `encodeChar_of_shown` — a character that shows is written as it is.
-/

namespace Glossary.Text

open Unicode (CharSet)

namespace Quoted

/-- The hexadecimal digits of a number, in small letters. -/
def hex (n : Nat) : List Char := Nat.toDigits 16 n

/-- Characters beyond ASCII without a shape of their own: those that are blank, unseen or
unknown, and those that are drawn on the character before them. -/
def hidden : CharSet :=
  .categories [.control, .format, .surrogate, .privateUse, .unassigned, .spaceSeparator,
    .lineSeparator, .paragraphSeparator] |||
  (CharSet.graphemeExtend \ .ofText "ff9e-ff9f") ||| .ofText "115f-1160 3164 ffa0"

/-- Whether a character has no shape of its own. -/
def isHidden (c : Char) : Bool :=
  if c.toNat < 128 then c.toNat < 0x20 || c.toNat == 0x7F else hidden.contains c

/-- One character of a quoted text. -/
def encodeChar (c : Char) : List Char :=
  match c with
  | '"' => ['\\', '"']
  | '\\' => ['\\', '\\']
  | '\t' => ['\\', 't']
  | '\r' => ['\\', 'r']
  | '\n' => ['\\', 'n']
  | '\x00' => ['\\', '0']
  | c => if isHidden c then ['\\', 'u', '\x7b'] ++ hex c.toNat ++ ['\x7d'] else [c]

theorem encodeChar_of_shown {c : Char} (h : isHidden c = false) (h1 : c ≠ '"') (h2 : c ≠ '\\') :
    encodeChar c = [c] := by
  unfold encodeChar
  split
  · exact absurd rfl h1
  · exact absurd rfl h2
  · exact absurd h (by decide)
  · exact absurd h (by decide)
  · exact absurd h (by decide)
  · exact absurd h (by decide)
  · simp [h]

end Quoted

/-- A text between double quotes. -/
def quoted (s : String) : String :=
  String.ofList ('"' :: s.toList.flatMap Quoted.encodeChar ++ ['"'])

end Glossary.Text
