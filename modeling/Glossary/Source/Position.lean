/-!
# Positions and spans

A position says where a character stands: how many characters lie before it, and its line and
column, both counted from one. A newline belongs to the line it ends.
-/

namespace Glossary

/-- A place in a text. -/
structure Position where
  offset : Nat
  line : Nat
  column : Nat
  deriving DecidableEq, Repr

namespace Position

/-- The place of the first character. -/
def first : Position := ⟨0, 1, 1⟩

/-- The place behind one more character. -/
def advance (p : Position) (c : Char) : Position :=
  if c = '\n' then ⟨p.offset + 1, p.line + 1, 1⟩ else ⟨p.offset + 1, p.line, p.column + 1⟩

/-- The places behind each character of a text, in order. -/
def trail (p : Position) : List Char → List Position
  | [] => []
  | c :: cs => p.advance c :: (p.advance c).trail cs

/-- The place behind a whole text. -/
def advanceAll (p : Position) (s : List Char) : Position := s.foldl advance p

@[simp] theorem offset_advance (p : Position) (c : Char) : (p.advance c).offset = p.offset + 1 := by
  unfold advance
  split <;> rfl

theorem advanceAll_append (p : Position) (s t : List Char) :
    p.advanceAll (s ++ t) = (p.advanceAll s).advanceAll t := List.foldl_append

/-- Written as line and column. -/
def display (p : Position) : String := s!"{p.line}:{p.column}"

end Position

/-- The text from one place up to, and without, another. -/
structure Span where
  start : Position
  stop : Position
  deriving DecidableEq, Repr

namespace Span

/-- Length in characters. -/
def length (s : Span) : Nat := s.stop.offset - s.start.offset

def isEmpty (s : Span) : Bool := s.start.offset == s.stop.offset

/-- Whether the character at `offset` lies in the span. -/
def covers (s : Span) (offset : Nat) : Bool :=
  s.start.offset ≤ offset && offset < s.stop.offset

/-- Written as `line:column-column` on one line, as two positions otherwise. -/
def display (s : Span) : String :=
  if s.start.line = s.stop.line then s!"{s.start.line}:{s.start.column}-{s.stop.column}"
  else s!"{s.start.display}-{s.stop.display}"

end Span

end Glossary
