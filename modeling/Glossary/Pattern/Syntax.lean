import Glossary.Source.Position
import Glossary.Unicode.CharSet

/-!
# Patterns as they are written

What a pattern says, with the places that later complaints may be about. Parts that count as
nested are marked as levels, so that the depth of a pattern is that of its levels.

## Main results

* `tooDeep?_level_zero` — where nothing may be nested any more, the first level is too deep.
-/

namespace Glossary.Pattern

open Unicode (SetOperation)

/-- What a flag changes. -/
inductive Flag where
  | ignoreCase
  | manyLines
  | dotAll
  /-- Which repetitions take as little as possible; it does not change what a pattern finds. -/
  | swapGreed
  | unicode
  | returns
  /-- Whether blanks and comments in the pattern do not count. -/
  | spaced
  deriving DecidableEq, Repr

namespace Flag

/-- The flag with a letter. -/
def ofLetter? : Char → Option Flag
  | 'i' => some .ignoreCase
  | 'm' => some .manyLines
  | 's' => some .dotAll
  | 'U' => some .swapGreed
  | 'u' => some .unicode
  | 'R' => some .returns
  | 'x' => some .spaced
  | _ => none

end Flag

/-- Flags that are set and flags that are cleared. -/
structure FlagChange where
  on : List Flag
  off : List Flag
  deriving DecidableEq, Repr

namespace FlagChange

def none : FlagChange := ⟨[], []⟩

/-- What becomes of a flag. -/
def apply (c : FlagChange) (f : Flag) (before : Bool) : Bool :=
  if c.on.contains f then true else if c.off.contains f then false else before

end FlagChange

/-- A character that stands for itself. -/
structure Literal where
  char : Char
  span : Span
  /-- Whether it is written as a byte, by two hexadecimal digits. -/
  isByte : Bool
  deriving DecidableEq, Repr

/-- Sets with a letter of their own. -/
inductive Shorthand where
  | digit
  | space
  | word
  deriving DecidableEq, Repr

/-- Sets of ASCII with a name between colons. -/
inductive AsciiSet where
  | alnum
  | alpha
  | ascii
  | blank
  | cntrl
  | digit
  | graph
  | lower
  | print
  | punct
  | space
  | upper
  | word
  | xdigit
  deriving DecidableEq, Repr

/-- What a named set is. -/
inductive SetName where
  | shorthand (s : Shorthand)
  | ascii (s : AsciiSet)
  | property (name : List Char)
  | propertyValue (name value : List Char)
  deriving DecidableEq, Repr

/-- A named set, or all characters outside it. -/
structure NamedSet where
  name : SetName
  negated : Bool
  span : Span
  deriving DecidableEq, Repr

/-- What stands in brackets. -/
inductive SetExpr where
  | empty
  | char (l : Literal)
  | range (first last : Literal)
  | named (n : NamedSet)
  | either (a b : SetExpr)
  | combine (op : SetOperation) (a b : SetExpr)
  | bracket (negated : Bool) (span : Span) (inside : SetExpr)
  | level (span : Span) (inside : SetExpr)
  deriving DecidableEq, Repr

/-- Where a word begins or ends. -/
inductive WordMark where
  | boundary
  | inside
  | start
  | stop
  /-- No word before this place. -/
  | startHalf
  /-- No word behind this place. -/
  | stopHalf
  deriving DecidableEq, Repr

/-- Conditions on a place. -/
inductive Anchor where
  | lineStart
  | lineStop
  | textStart
  | textStop
  | word (m : WordMark)
  deriving DecidableEq, Repr

/-- A single item of a pattern. -/
inductive Atom where
  | char (l : Literal)
  | dot (span : Span)
  | anchor (a : Anchor)
  | named (n : NamedSet)
  deriving DecidableEq, Repr

/-- A pattern. -/
inductive Expr where
  | empty
  | flags (change : FlagChange)
  | atom (a : Atom)
  | set (s : SetExpr)
  | times (e : Expr) (least : Nat) (most? : Option Nat)
  /-- A group and the flags that change in it; the flag says whether its text is remembered. -/
  | group (change : FlagChange) (remembered : Bool) (e : Expr)
  | seq (a b : Expr)
  | either (a b : Expr)
  | level (span : Span) (e : Expr)
  deriving DecidableEq, Repr

/-- The first place that is nested deeper than `depth` levels. -/
def SetExpr.tooDeep? (depth : Nat) : SetExpr → Option Span
  | .empty | .char _ | .range _ _ | .named _ => none
  | .either a b | .combine _ a b => a.tooDeep? depth <|> b.tooDeep? depth
  | .bracket _ span s | .level span s =>
      match depth with
      | 0 => some span
      | depth + 1 => s.tooDeep? depth

/-- The first place that is nested deeper than `depth` levels. -/
def Expr.tooDeep? (depth : Nat) : Expr → Option Span
  | .empty | .flags _ | .atom _ => none
  | .set s => s.tooDeep? depth
  | .times e _ _ | .group _ _ e => e.tooDeep? depth
  | .seq a b | .either a b => a.tooDeep? depth <|> b.tooDeep? depth
  | .level span e =>
      match depth with
      | 0 => some span
      | depth + 1 => e.tooDeep? depth

theorem Expr.tooDeep?_level_zero (span : Span) (e : Expr) :
    (Expr.level span e).tooDeep? 0 = some span := rfl

end Glossary.Pattern
