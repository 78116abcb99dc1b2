import Glossary.Limits
import Glossary.Text.Blank

/-!
# Tokens

A token is either a word, that is a letter or underscore of ASCII followed by letters, digits
and underscores of ASCII, or any other single character that is not blank. There are no strings,
comments, numbers or operators of several characters: the same two rules read every language.

A `Cursor` stands between two tokens of a text and knows how many characters and bytes lie
before it. `Cursor.next?` reads one token; all scans repeat it.

## Main results

* `Cursor.length_rest_lt` — reading a token shortens what is left, so a scan ends.
* `Cursor.take_toList` — a bounded scan gives the first tokens of the full scan.
-/

namespace Glossary

open Text

/-- A token with its place, counted in characters and in bytes; the stops are exclusive. -/
structure Token where
  text : String
  start : Nat
  stop : Nat
  byteStart : Nat
  byteStop : Nat
  deriving DecidableEq, Repr

namespace Token

/-- Length in characters. -/
def length (t : Token) : Nat := t.stop - t.start

/-- Whether the character at `offset` belongs to the token. -/
def covers (t : Token) (offset : Nat) : Bool := t.start ≤ offset && offset < t.stop

/-- Characters that open a word. -/
def isWordStart (c : Char) : Bool := c.isAlpha || c == '_'

/-- Characters that carry a word on. -/
def isWordPart (c : Char) : Bool := c.isAlphanum || c == '_'

/-- The characters that `c`, which is not blank, opens a token with, and what follows them. -/
def split (c : Char) (rest : List Char) : List Char × List Char :=
  if isWordStart c then (c :: rest.takeWhile isWordPart, rest.dropWhile isWordPart)
  else ([c], rest)

theorem split_append (c : Char) (rest : List Char) :
    (split c rest).1 ++ (split c rest).2 = c :: rest := by
  unfold split
  split <;> simp [List.takeWhile_append_dropWhile]

theorem length_split_lt (c : Char) (rest : List Char) :
    (split c rest).2.length < (c :: rest).length := by
  have h := congrArg List.length (split_append c rest)
  have : 0 < (split c rest).1.length := by unfold split; split <;> simp
  rw [List.length_append] at h
  omega

end Token

/-- Number of bytes of a text. -/
def byteLength (s : List Char) : Nat := s.foldl (fun n c => n + c.utf8Size) 0

/-- A place between two tokens of a text: what is left, and how much lies before it. -/
structure Cursor where
  rest : List Char
  chars : Nat
  bytes : Nat
  deriving DecidableEq, Repr

namespace Cursor

/-- The place before the first character of a text. -/
def ofText (text : String) : Cursor := ⟨text.toList, 0, 0⟩

/-- The next token and the place behind it, or nothing when only blanks are left. -/
def next? (c : Cursor) : Option (Token × Cursor) :=
  match c.rest.dropWhile isBlank with
  | [] => none
  | x :: xs =>
      let gap := c.rest.takeWhile isBlank
      let (run, rest) := Token.split x xs
      let start := c.chars + gap.length
      let byteStart := c.bytes + byteLength gap
      let stop := start + run.length
      let byteStop := byteStart + byteLength run
      some (⟨String.ofList run, start, stop, byteStart, byteStop⟩, ⟨rest, stop, byteStop⟩)

theorem length_rest_lt {c d : Cursor} {t : Token} (h : c.next? = some (t, d)) :
    d.rest.length < c.rest.length := by
  unfold next? at h
  split at h
  · contradiction
  · next x xs hx =>
      simp only [Option.some.injEq, Prod.mk.injEq] at h
      obtain ⟨-, rfl⟩ := h
      have hs := Token.length_split_lt x xs
      have hd : (c.rest.dropWhile isBlank).length ≤ c.rest.length :=
        (List.dropWhile_suffix isBlank).length_le
      rw [hx] at hd
      exact Nat.lt_of_lt_of_le hs hd

/-- All tokens from here on. -/
def tokens (c : Cursor) : List Token :=
  match _h : c.next? with
  | none => []
  | some (t, d) => t :: d.tokens
termination_by c.rest.length
decreasing_by exact length_rest_lt _h

theorem tokens_of_none {c : Cursor} (h : c.next? = none) : c.tokens = [] := by
  rw [tokens]
  split <;> simp_all

theorem tokens_of_some {c d : Cursor} {t : Token} (h : c.next? = some (t, d)) :
    c.tokens = t :: d.tokens := by
  rw [tokens]
  split <;> simp_all

/-- Appends the next `n` tokens, or all that are left if there are fewer. -/
def take : Nat → Cursor → Array Token → Array Token
  | 0, _, found => found
  | n + 1, c, found =>
      match c.next? with
      | none => found
      | some (t, d) => take n d (found.push t)

theorem take_toList (n : Nat) (c : Cursor) (found : Array Token) :
    (take n c found).toList = found.toList ++ c.tokens.take n := by
  induction n generalizing c found with
  | zero => simp [take]
  | succ n ih =>
      rw [take]
      split
      · next h => simp [tokens_of_none h]
      · next h => simp [tokens_of_some h, ih]

/-- The first token that covers `offset`; the search stops at a token that starts behind it. -/
def seek (c : Cursor) (offset : Nat) : Option Token :=
  match _h : c.next? with
  | none => none
  | some (t, d) =>
      if offset < t.start then none
      else if t.covers offset then some t
      else d.seek offset
termination_by c.rest.length
decreasing_by exact length_rest_lt _h

end Cursor

/-- Why a text is not scanned. -/
inductive ScanError where
  /-- The text has `size` bytes, more than are scanned. -/
  | inputTooLarge (size : Nat)
  /-- The scan reached its `count`-th token, one more than are kept. -/
  | tooManyTokens (count : Nat)
  deriving DecidableEq, Repr

/-- The wording of each cause. -/
def ScanError.message : ScanError → String
  | .inputTooLarge size => s!"Input too large: {size} bytes (max {Limits.maxInputSize})"
  | .tooManyTokens _ => s!"Too many tokens: more than {Limits.maxTokenCount}"

namespace Token

/-- The place before the first token of a text that is small enough to be scanned. -/
def cursor (text : String) : Except ScanError Cursor :=
  if Limits.maxInputSize < text.utf8ByteSize then .error (.inputTooLarge text.utf8ByteSize)
  else .ok (.ofText text)

/-- The first `n` tokens of a text. -/
def scan (n : Nat) (text : String) : Except ScanError (Array Token) :=
  (cursor text).map (·.take n #[])

/-- All tokens of a text, unless there are too many. One token more than the limit is enough to
tell. -/
def tokenize (text : String) : Except ScanError (Array Token) := do
  let found ← scan (Limits.maxTokenCount + 1) text
  if Limits.maxTokenCount < found.size then .error (.tooManyTokens found.size) else .ok found

/-- The token that covers the character at `offset`, if one does. -/
def at? (text : String) (offset : Nat) : Except ScanError (Option Token) :=
  (cursor text).map (·.seek offset)

end Token

end Glossary
