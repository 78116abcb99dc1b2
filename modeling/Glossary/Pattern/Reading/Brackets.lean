import Glossary.Pattern.Reading.Escape

/-!
# Sets in brackets

Reading a set in brackets: characters, ranges, named sets and sets in further brackets, side by
side or combined by operators, which are written twice: `&&`, `--` and `~~`. Operators are taken
from left to right.

## Main results

* `whole_push` — a further item widens the span of the items up to its own end.
-/

namespace Glossary.Pattern

open Unicode (SetOperation)

/-- Brackets that are open. -/
structure OpenSet where
  /-- The opening part. -/
  opening : Span
  negated : Bool
  /-- What stands before the last operator. -/
  left? : Option (SetOperation × SetExpr × Span)
  /-- Where the items start, if there are any. -/
  place : Position
  /-- The items behind the last operator, last first. -/
  items : List (SetExpr × Span)

namespace OpenSet

/-- Adds an item. -/
def push (s : OpenSet) (e : SetExpr) (span : Span) : OpenSet :=
  { s with items := (e, span) :: s.items }

/-- Where the items stand. -/
def whole (s : OpenSet) : Span :=
  match s.items.getLast?, s.items.head? with
  | some (_, first), some (_, last) => ⟨first.start, last.stop⟩
  | _, _ => ⟨s.place, s.place⟩

theorem whole_push (s : OpenSet) (e : SetExpr) (span : Span) :
    (s.push e span).whole.stop = span.stop := by
  unfold whole push
  cases h : List.getLast? ((e, span) :: s.items) with
  | none => simp at h
  | some p => rfl

/-- The items as one set. -/
def union (s : OpenSet) : SetExpr :=
  match s.items.reverse with
  | [] => .empty
  | [(e, _)] => e
  | es => .level s.whole (es.foldr (fun e rest => .either e.1 rest) .empty)

/-- All that has been read, as one set, and its span. -/
def combined (s : OpenSet) : SetExpr × Span :=
  match s.left? with
  | none => (s.union, s.whole)
  | some (op, left, span) =>
      let span : Span := ⟨span.start, s.whole.stop⟩
      (.level span (.combine op left s.union), span)

end OpenSet

namespace Reading

/-- The operator that the next two characters are. -/
def operator? (rest : List Char) : Option SetOperation :=
  match rest with
  | '&' :: '&' :: _ => some .intersection
  | '-' :: '-' :: _ => some .difference
  | '~' :: '~' :: _ => some .symmetricDifference
  | _ => none

/-- The set of ASCII with a name. -/
def asciiSet? : String → Option AsciiSet
  | "alnum" => some .alnum
  | "alpha" => some .alpha
  | "ascii" => some .ascii
  | "blank" => some .blank
  | "cntrl" => some .cntrl
  | "digit" => some .digit
  | "graph" => some .graph
  | "lower" => some .lower
  | "print" => some .print
  | "punct" => some .punct
  | "space" => some .space
  | "upper" => some .upper
  | "word" => some .word
  | "xdigit" => some .xdigit
  | _ => none

/-- Reads a named set of ASCII, if the text is one: a name between colons, in brackets. Gives the
set, whether it is negated, and the length of its text. -/
def asciiName? (rest : List Char) : Option (AsciiSet × Bool × Nat) :=
  match rest with
  | '[' :: ':' :: rest =>
      let negated := rest.head? == some '^'
      let rest := if negated then rest.drop 1 else rest
      let name := rest.takeWhile (· != ':')
      if [':', ']'].isPrefixOf (rest.drop name.length) then
        (asciiSet? (String.ofList name)).map fun s =>
          (s, negated, name.length + (if negated then 5 else 4))
      else none
  | _ => none

/-- The character behind the next one, blanks left aside. A comment is taken for one only as far
as its sign. -/
def second : Reading (Option Char) := do
  let r ← get
  let rest := r.rest.drop 1
  if !r.spaced then pure rest.head?
  else
    let after :=
      match rest.dropWhile Text.isBlank with
      | '#' :: cs => cs.dropWhile Text.isBlank
      | cs => cs
    pure (after.head? <|> rest.head?)

/-- An item between brackets, and its span. Only escapes have a meaning of their own there. -/
def setAtom : Reading (Atom × Span) := do
  let start ← here
  let a ← if (← peek) == some '\\' then escape else verbatim
  pure (a, ⟨start, ← here⟩)

/-- An item as a boundary of a range. -/
def boundary (a : Atom) (span : Span) : Reading Literal :=
  match a with
  | .char l => pure l
  | _ => fail .rangeNotLiteral span

/-- An item as a set. -/
def setOfAtom (a : Atom) (span : Span) : Reading SetExpr :=
  match a with
  | .char l => pure (.char l)
  | .named n => pure (.named n)
  | _ => fail .setEscape span

/-- An item or a range. `opening` is the opening part of the brackets around it. A hyphen before
the closing bracket or before another hyphen makes no range. -/
def setItem (opening : Span) : Reading (SetExpr × Span) := do
  let (a, first) ← setAtom
  skipBlanks
  if ← atEnd then fail .setUnclosed opening
  let next ← second
  if (← peek) != some '-' || next == some ']' || next == some '-' then
    pure (← setOfAtom a first, first)
  else
    advance
    if ← atEnd then fail .setUnclosed opening
    let (b, last) ← setAtom
    let low ← boundary a first
    let high ← boundary b last
    let span : Span := ⟨first.start, last.stop⟩
    if high.char < low.char then fail .rangeInvalid span
    pure (.range low high, span)

/-- Passes over hyphens, which stand for themselves at the start of brackets. -/
def hyphens (start : Position) : Nat → OpenSet → Reading OpenSet
  | 0, s => pure s
  | n + 1, s => do
      match ← peek with
      | some '-' =>
          let span ← nextSpan
          advance
          if ← atEnd then fail .setUnclosed ⟨start, start⟩
          hyphens start n (s.push (.char ⟨'-', span, false⟩) span)
      | _ => pure s

/-- The opening part of brackets, with characters that stand for themselves only there: hyphens,
or a closing bracket. -/
def openSet : Reading OpenSet := do
  let start ← here
  advance
  if ← atEnd then failFrom .setUnclosed start
  let negated := (← peek) == some '^'
  if negated then
    advance
    if ← atEnd then failFrom .setUnclosed start
  let place ← here
  let s ← hyphens start (← get).rest.length ⟨⟨start, start⟩, negated, none, place, []⟩
  let mut s := s
  if s.items.isEmpty && (← peek) == some ']' then
    let span ← nextSpan
    advance
    if ← atEnd then failFrom .setUnclosed start
    s := s.push (.char ⟨']', span, false⟩) span
  pure { s with opening := ⟨start, ← here⟩ }

/-- Reads brackets to their end. `outer` holds the brackets around them, the innermost first.
Every step takes a character, so the number of characters is fuel enough. -/
def closeSet (fuel : Nat) (outer : List OpenSet) (s : OpenSet) : Reading (SetExpr × Span) :=
  match fuel with
  | 0 => fail .setUnclosed s.opening
  | fuel + 1 => do
      skipBlanks
      let start ← here
      match ← peek with
      | none => fail .setUnclosed s.opening
      | some '[' =>
          match asciiName? (← get).rest with
          | some (set, negated, length) =>
              skip length
              let span : Span := ⟨start, ← here⟩
              closeSet fuel outer (s.push (.named ⟨.ascii set, negated, span⟩) span)
          | none => closeSet fuel (s :: outer) (← openSet)
      | some ']' =>
          skip 1
          let span : Span := ⟨s.opening.start, ← here⟩
          let e := SetExpr.bracket s.negated span s.combined.1
          match outer with
          | [] => pure (e, span)
          | o :: outer => closeSet fuel outer (o.push e span)
      | some _ =>
          match operator? (← get).rest with
          | some op =>
              skip 2
              let (left, span) := s.combined
              closeSet fuel outer
                { s with left? := some (op, left, span), place := ← here, items := [] }
          | none =>
              let (e, span) ← setItem s.opening
              closeSet fuel outer (s.push e span)

/-- A set in brackets, and its span. -/
def bracketSet : Reading (SetExpr × Span) := do
  let s ← openSet
  closeSet ((← get).rest.length + 1) [] s

end Reading

end Glossary.Pattern
