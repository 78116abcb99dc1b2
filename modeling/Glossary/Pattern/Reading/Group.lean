import Glossary.Pattern.Reading.Brackets
import Glossary.Unicode.Property

/-!
# Groups and repetitions

Reading what goes around items: the start of a group with its flags or its name, and what says
how often an item is repeated.
-/

namespace Glossary.Pattern.Reading

open Unicode (CharSet)

/-- How a group starts. -/
inductive GroupStart where
  /-- Flags alone, for the rest of the group around. -/
  | flags (change : FlagChange) (span : Span)
  /-- A group with its parenthesis and the flags that change in it. -/
  | opened (change : FlagChange) (remembered : Bool) (paren : Span)

/-- A flag or the hyphen between flags, with its place. -/
abbrev FlagMark := Option Flag × Span

/-- Flags up to a colon or a closing parenthesis; `marks` holds those already read, last first.
Nothing may stand twice, and the hyphen not last. -/
def flags (fuel : Nat) (marks : List FlagMark) : Reading (List FlagMark) :=
  match fuel with
  | 0 => failHere .flagUnfinished
  | fuel + 1 => do
      let span ← nextSpan
      match ← peek with
      | none => failHere .flagUnfinished
      | some c =>
          if c = ':' ∨ c = ')' then
            match marks with
            | (none, span) :: _ => fail .flagDangling span
            | _ => pure marks.reverse
          else
            let mark := Flag.ofLetter? c
            if mark.isNone ∧ c ≠ '-' then fail .flagUnrecognized span
            match marks.find? (·.1 == mark) with
            | some (_, earlier) =>
                throw
                  ⟨if mark.isNone then .flagHyphenRepeated else .flagDuplicate, span, some earlier⟩
            | none =>
                skip 1
                flags fuel ((mark, span) :: marks)

/-- What flags change: those in front of the hyphen are set, those behind it cleared. -/
def change (marks : List FlagMark) : FlagChange :=
  let marks := marks.map (·.1)
  ⟨(marks.takeWhile Option.isSome).filterMap id, (marks.dropWhile Option.isSome).filterMap id⟩

/-- Whether a name of a group may have a character, at its start or further on. -/
def isNameChar (first : Bool) (c : Char) : Bool :=
  c == '_' || CharSet.alphabetic.contains c ||
    (!first && (c == '.' || c == '[' || c == ']' || CharSet.numeric.contains c))

/-- The name of a group and the bracket behind it. Names must differ. -/
def groupName : Reading Unit := do
  let start ← here
  if ← atEnd then failHere .groupNameUnclosed
  let rest := (← get).rest
  let name := rest.takeWhile (· != '>')
  let good := name.take 1 |>.takeWhile (isNameChar true)
  let good := if good = [] then [] else good ++ (name.drop 1).takeWhile (isNameChar false)
  skip good.length
  if good.length < name.length then failNext .groupNameInvalid
  if ← atEnd then failHere .groupNameUnclosed
  let span : Span := ⟨start, ← here⟩
  skip 1
  if name = [] then fail .groupNameEmpty span
  match (← get).names.find? (·.1 == name) with
  | some (_, earlier) => throw ⟨.groupNameDuplicate, span, some earlier⟩
  | none => modify fun r => { r with names := r.names ++ [(name, span)] }

/-- Passes over the first of some texts that is next, and says whether there was one. -/
def acceptAny : List String → Reading Bool
  | [] => pure false
  | t :: ts => do
      if ← accept t then pure true else acceptAny ts

/-- The start of a group. The reader stands at its parenthesis. -/
def groupStart : Reading GroupStart := do
  let paren ← nextSpan
  advance
  if ← acceptAny ["?=", "?!", "?<=", "?<!"] then failFrom .lookAround paren.start
  let inner ← here
  if ← acceptAny ["?P<", "?<"] then
    groupName
    pure (.opened .none true paren)
  else if ← accept "?" then
    if ← atEnd then fail .groupUnclosed paren
    let marks ← flags ((← get).rest.length + 1) []
    let alone := (← peek) == some ')'
    skip 1
    if alone then
      if marks = [] then fail .repetitionMissing ⟨inner, inner⟩
      pure (.flags (change marks) ⟨paren.start, ← here⟩)
    else pure (.opened (change marks) false paren)
  else pure (.opened .none true paren)

/-- A decimal number of at most 32 bits with blanks around it, or what is wrong with it. Only who
needs the number complains. -/
def decimal : Reading (Except Finding Nat) := do
  skip ((← get).rest.takeWhile Text.isBlank).length
  let start ← here
  let digits ← collectAll Char.isDigit
  let span : Span := ⟨start, ← here⟩
  let _ ← collectAll Text.isBlank
  pure <|
    match Text.decimal? digits with
    | none => .error ⟨.countEmpty, span, none⟩
    | some n => if 4294967295 < n then .error ⟨.decimalInvalid, span, none⟩ else .ok n

/-- The number that is needed. -/
def needed : Except Finding Nat → Reading Nat
  | .ok n => pure n
  | .error e => throw e

/-- The numbers in braces: one, a least one, or a least and a largest one. -/
def bounds (start : Position) : Reading (Nat × Option Nat) := do
  let first ← decimal
  if ← atEnd then failFrom .countUnclosed start
  if (← peek) != some ',' then
    let n ← needed first
    pure (n, some n)
  else
    advance
    if ← atEnd then failFrom .countUnclosed start
    let least ← needed first
    if (← peek) == some '\x7d' then pure (least, none)
    else pure (least, some (← needed (← decimal)))

/-- How often something is repeated, in braces. The reader stands at the opening brace. -/
def count : Reading (Nat × Option Nat) := do
  let start ← here
  advance
  if ← atEnd then failFrom .countUnclosed start
  let range ← bounds start
  if (← peek) != some '\x7d' then failFrom .countUnclosed start
  advance
  let _ ← accept "?"
  if range.2.any (· < range.1) then failFrom .countInvalid start
  pure range

end Glossary.Pattern.Reading
