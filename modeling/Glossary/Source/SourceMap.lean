import Glossary.Source.Position
import Glossary.Source.Search
import Glossary.Text.Lines
import Glossary.Token

/-!
# Source maps

A source map is a text together with its lines and where each of them starts. It turns offsets
into positions and back, and shows a span under the line that it starts on.

The lines are the pieces between newlines. Carriage returns at the end of a line are not shown
and cannot be pointed at, but they count for the offsets of what follows.

## Main results

* `ofText_size` — there is one line more than there are newlines.
-/

namespace Glossary

open Text

/-- One line of a text: how many characters and bytes lie before it, and its characters without
the newline. -/
structure Line where
  start : Nat
  byteStart : Nat
  chars : List Char
  deriving DecidableEq, Repr

/-- The line as it is shown. -/
def Line.shown (l : Line) : List Char := dropReturns l.chars

/-- A text with the table of its lines. -/
structure SourceMap where
  text : String
  lines : Array Line
  charCount : Nat
  deriving DecidableEq, Repr

namespace SourceMap

/-- Appends the lines with the given characters, the first of which starts at the given place. -/
def layOut (start byteStart : Nat) : List (List Char) → Array Line → Array Line
  | [], found => found
  | p :: ps, found =>
      layOut (start + p.length + 1) (byteStart + byteLength p + 1) ps
        (found.push ⟨start, byteStart, p⟩)

theorem size_layOut (start byteStart : Nat) (ps : List (List Char)) (found : Array Line) :
    (layOut start byteStart ps found).size = found.size + ps.length := by
  induction ps generalizing start byteStart found with
  | nil => simp [layOut]
  | cons p ps ih =>
      rw [layOut, ih]
      simp only [Array.size_push, List.length_cons]
      omega

/-- The map of a text. -/
def ofText (text : String) : SourceMap :=
  let chars := text.toList
  ⟨text, layOut 0 0 (pieces chars) #[], chars.length⟩

def lineCount (m : SourceMap) : Nat := m.lines.size

theorem ofText_size (text : String) :
    (ofText text).lineCount = (pieces text.toList).length := by
  simp [lineCount, ofText, size_layOut]

/-- Index of the line that holds an offset: the last one that does not start behind it. -/
def lineIndex (m : SourceMap) (offset : Nat) : Nat :=
  Search.partitionPoint (fun i => m.lines[i]?.any (·.start ≤ offset)) m.lines.size - 1

/-- The position of an offset; an offset past the end stands for the end. -/
def position (m : SourceMap) (offset : Nat) : Position :=
  let offset := min offset m.charCount
  let index := m.lineIndex offset
  let start := (m.lines[index]?.map (·.start)).getD 0
  ⟨offset, index + 1, offset - start + 1⟩

/-- The span between two offsets. -/
def span (m : SourceMap) (start stop : Nat) : Span := ⟨m.position start, m.position stop⟩

/-- A line by its number, counted from one. -/
def line? (m : SourceMap) (number : Nat) : Option Line :=
  if number = 0 then none else m.lines[number - 1]?

/-- The offset of a line and column, if they point at a character of the line as shown or right
behind its last one. -/
def offset? (m : SourceMap) (line column : Nat) : Option Nat :=
  if column = 0 then none
  else
    match m.line? line with
    | none => none
    | some l => if l.shown.length < column - 1 then none else some (l.start + (column - 1))

/-- How many carets mark a span on a line of `shown` characters, at least one. Nothing when the
span would begin behind its own end, or behind the end of the line that it runs out of. -/
def caretCount? (s : Span) (shown : Nat) : Option Nat :=
  if s.start.line = s.stop.line then
    if s.stop.column < s.start.column then none else some (max 1 (s.stop.column - s.start.column))
  else if shown + 1 < s.start.column then none
  else some (max 1 (shown + 1 - s.start.column))

/-- The line that a span starts on, with carets under the span. A span on no line of the text
gives the heading alone; one that cannot be marked gives nothing. -/
def excerpt? (m : SourceMap) (s : Span) : Option String :=
  let heading := s!"  --> {s.start.display}\n"
  match m.line? s.start.line with
  | none => some heading
  | some l =>
      if s.start.column = 0 then none
      else (caretCount? s l.shown.length).map fun carets =>
        let number := toString s.start.line
        let margin := String.ofList (List.replicate number.length ' ')
        let indent := String.ofList (List.replicate (s.start.column - 1) ' ')
        let marks := String.ofList (List.replicate carets '^')
        heading ++ s!"{margin} |\n{number} | {String.ofList l.shown}\n{margin} | {indent}{marks}\n"

end SourceMap

end Glossary
