import Glossary.Pattern.Flaw
import Glossary.Text.Blank

/-!
# Reading a pattern

A pattern is read character by character, and the reader knows its place at any time, so that it
can say where something is wrong. While the flag for blanks is set, blanks and comments between
the items of a pattern are passed over.

## Main results

* `dropBlanks_suffix` — passing over blanks and comments leaves the rest as it is.
-/

namespace Glossary.Pattern

/-- What follows blanks and comments; `comment` says whether the text starts in a comment. -/
def dropBlanks (comment : Bool) : List Char → List Char
  | [] => []
  | c :: cs =>
      if comment then dropBlanks (c != '\n') cs
      else if c = '#' then dropBlanks true cs
      else if Text.isBlank c then dropBlanks false cs
      else c :: cs

theorem dropBlanks_suffix (comment : Bool) (s : List Char) : dropBlanks comment s <:+ s := by
  induction s generalizing comment with
  | nil => exact List.suffix_refl _
  | cons c cs ih =>
      unfold dropBlanks
      split
      · exact (ih _).trans (List.suffix_cons c cs)
      · split
        · exact (ih _).trans (List.suffix_cons c cs)
        · split
          · exact (ih _).trans (List.suffix_cons c cs)
          · exact List.suffix_refl _

/-- Where a reader stands. -/
structure Reader where
  rest : List Char
  position : Position
  /-- Whether blanks and comments are passed over. -/
  spaced : Bool
  /-- The names of groups so far, with their places. -/
  names : List (List Char × Span)

/-- Work of a reader, which ends early where something is wrong. -/
abbrev Reading := StateT Reader (Except Finding)

namespace Reading

/-- Where the reader stands. -/
def here : Reading Position := do pure (← get).position

/-- The next character. -/
def peek : Reading (Option Char) := do pure (← get).rest.head?

/-- Whether nothing is left. -/
def atEnd : Reading Bool := do pure (← get).rest.isEmpty

/-- Passes over some characters. -/
def skip (n : Nat) : Reading Unit :=
  modify fun r => { r with
    rest := r.rest.drop n
    position := r.position.advanceAll (r.rest.take n) }

/-- Passes over blanks and comments, if they do not count. -/
def skipBlanks : Reading Unit := do
  let r ← get
  if r.spaced then skip (r.rest.length - (dropBlanks false r.rest).length)

/-- Passes over one character and the blanks behind it. -/
def advance : Reading Unit := do
  skip 1
  skipBlanks

/-- Passes over a text if it is next, and says whether it was. -/
def accept (text : String) : Reading Bool := do
  if text.toList.isPrefixOf (← get).rest then
    skip text.length
    pure true
  else pure false

/-- The place of the next character. -/
def nextSpan : Reading Span := do
  let r ← get
  pure ⟨r.position, r.position.advanceAll (r.rest.take 1)⟩

/-- Gives up because of something at a place. -/
def fail {α : Type} (flaw : Flaw) (span : Span) : Reading α :=
  throw ⟨flaw, span, none⟩

/-- Gives up because of something at the place where the reader stands, if not before. -/
def failHere {α : Type} (flaw : Flaw) : Reading α := do
  let p ← here
  fail flaw ⟨p, p⟩

/-- Gives up because of something that goes from a place to where the reader stands. -/
def failFrom {α : Type} (flaw : Flaw) (start : Position) : Reading α := do
  fail flaw ⟨start, ← here⟩

/-- Gives up because of the next character. -/
def failNext {α : Type} (flaw : Flaw) : Reading α := do
  fail flaw (← nextSpan)

/-- The next characters that pass a test, at most so many, with blanks between them passed
over. -/
def collect (test : Char → Bool) : Nat → Reading (List Char)
  | 0 => pure []
  | n + 1 => do
      match ← peek with
      | some c =>
          if test c then
            advance
            pure (c :: (← collect test n))
          else pure []
      | none => pure []

/-- All next characters that pass a test. -/
def collectAll (test : Char → Bool) : Reading (List Char) := do
  collect test (← get).rest.length

end Reading

end Glossary.Pattern
