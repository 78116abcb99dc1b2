import Glossary.Pattern.Reading
import Glossary.Pattern.Syntax
import Glossary.Text.Digit

/-!
# Single items

Reading one item of a pattern: a character that stands for itself, a dot, a condition on a place,
or an escape, which is a backslash and what it makes of the characters behind it.

## Main results

* `cut?_eq_some` — a name is cut around the mark, and nothing is lost.
-/

namespace Glossary.Pattern.Reading

/-- Cuts a text around the first occurrence of a mark. -/
def cut? (mark : List Char) : List Char → Option (List Char × List Char)
  | [] => none
  | c :: cs =>
      if mark.isPrefixOf (c :: cs) then some ([], (c :: cs).drop mark.length)
      else (cut? mark cs).map fun (before, after) => (c :: before, after)

theorem cut?_eq_some {mark s before after : List Char} (h : cut? mark s = some (before, after)) :
    s = before ++ mark ++ after := by
  induction s generalizing before after with
  | nil => simp [cut?] at h
  | cons c cs ih =>
      unfold cut? at h
      split at h
      · next hp =>
          obtain ⟨t, ht⟩ := List.isPrefixOf_iff_prefix.1 hp
          simp only [← ht, List.drop_left, Option.some.injEq, Prod.mk.injEq] at h
          simp [← ht, ← h.1, ← h.2]
      · obtain ⟨⟨b, a⟩, hb, heq⟩ := Option.map_eq_some_iff.1 h
        simp only [Prod.mk.injEq] at heq
        simp [ih hb, ← heq.1, ← heq.2]

/-- What stands between the braces of a property: a name, or a name and a value with a sign
between them. -/
def property (s : List Char) : SetName :=
  match cut? ['!', '='] s <|> cut? [':'] s <|> cut? ['='] s with
  | some (name, value) => .propertyValue name value
  | none => .property s

/-- The character with a number. -/
def scalar? (n : Nat) : Option Char :=
  if n < 0xD800 ∨ (0xDFFF < n ∧ n < 0x110000) then some (Char.ofNat n) else none

/-- So many hexadecimal digits. -/
def hexDigits : Nat → Reading (List Char)
  | 0 => pure []
  | n + 1 => do
      match ← peek with
      | none => failHere .escapeUnfinished
      | some c =>
          if !Text.isDigitOf 16 c then failNext .hexDigitInvalid
          advance
          pure (c :: (← hexDigits n))

/-- The character of an escape with `size` hexadecimal digits, or with any number of them in
braces. The reader stands at the letter of the escape, which started at `start`. -/
def hexEscape (start : Position) (size : Nat) : Reading Atom := do
  advance
  if ← atEnd then failHere .escapeUnfinished
  let outer ← nextSpan
  if (← peek) == some '\x7b' then
    advance
    let digits ← collectAll (Text.isDigitOf 16)
    if ← atEnd then failFrom .escapeUnfinished outer.start
    if (← peek) != some '\x7d' then failNext .hexDigitInvalid
    let stop ← here
    advance
    if digits = [] then failFrom .hexEmpty outer.start
    match scalar? (Text.ofDigits 16 digits) with
    | some c => pure (.char ⟨c, ⟨start, ← here⟩, false⟩)
    | none => fail .hexInvalid ⟨outer.stop, stop⟩
  else
    let digits ← hexDigits size
    match scalar? (Text.ofDigits 16 digits) with
    | some c => pure (.char ⟨c, ⟨start, ← here⟩, size == 2⟩)
    | none => failFrom .hexInvalid outer.start

/-- The set of the characters that have a property, or of those that do not have it. The reader
stands at the letter of the escape. -/
def propertyEscape (start : Position) (negated : Bool) : Reading Atom := do
  advance
  match ← peek with
  | none => failHere .escapeUnfinished
  | some '\x7b' =>
      advance
      let name ← collectAll (· != '\x7d')
      if ← atEnd then failHere .escapeUnfinished
      skip 1
      pure (.named ⟨property name, negated, ⟨start, ← here⟩⟩)
  | some '\\' => failNext .propertyInvalid
  | some c =>
      advance
      pure (.named ⟨.property [c], negated, ⟨start, ← here⟩⟩)

/-- The characters that names of conditions on words are made of. -/
def isMarkLetter (c : Char) : Bool := c.isAlpha || c == '-'

/-- The condition on words that a name in braces chooses. Braces that do not begin like a name
are left alone: they may count how often the condition is repeated. -/
def wordMark (start : Position) : Reading WordMark := do
  let before ← get
  if (← peek) != some '\x7b' then pure .boundary
  else
    advance
    if ← atEnd then failFrom .wordMarkUnfinished start
    let first ← here
    if !(← peek).any isMarkLetter then
      set before
      pure .boundary
    else
      let name ← collectAll isMarkLetter
      if (← peek) != some '\x7d' then failFrom .wordMarkUnclosed before.position
      let stop ← here
      skip 1
      match String.ofList name with
      | "start" => pure .start
      | "end" => pure .stop
      | "start-half" => pure .startHalf
      | "end-half" => pure .stopHalf
      | _ => fail .wordMarkUnrecognized ⟨first, stop⟩

/-- The set that a letter stands for. -/
def shorthand? : Char → Option (Shorthand × Bool)
  | 'd' => some (.digit, false)
  | 'D' => some (.digit, true)
  | 's' => some (.space, false)
  | 'S' => some (.space, true)
  | 'w' => some (.word, false)
  | 'W' => some (.word, true)
  | _ => none

/-- The character that a letter stands for. -/
def control? : Char → Option Char
  | 'a' => some '\x07'
  | 'f' => some '\x0c'
  | 't' => some '\t'
  | 'n' => some '\n'
  | 'r' => some '\r'
  | 'v' => some '\x0b'
  | _ => none

/-- Characters that stand for themselves behind a backslash: all of ASCII but letters, digits and
the angle brackets. -/
def isEscapable (c : Char) : Bool := c.toNat < 128 && !c.isAlphanum && c != '<' && c != '>'

/-- An escape. The reader stands at its backslash. -/
def escape : Reading Atom := do
  let start ← here
  skip 1
  match ← peek with
  | none => failFrom .escapeUnfinished start
  | some 'x' => hexEscape start 2
  | some 'u' => hexEscape start 4
  | some 'U' => hexEscape start 8
  | some 'p' => propertyEscape start false
  | some 'P' => propertyEscape start true
  | some c =>
      skip 1
      let span : Span := ⟨start, ← here⟩
      if c.isDigit then fail .backreference span
      match shorthand? c with
      | some (s, negated) => pure (.named ⟨.shorthand s, negated, span⟩)
      | none =>
          match control? c with
          | some d => pure (.char ⟨d, span, false⟩)
          | none =>
              if isEscapable c then pure (.char ⟨c, span, false⟩)
              else
                match c with
                | 'A' => pure (.anchor .textStart)
                | 'z' => pure (.anchor .textStop)
                | 'b' => pure (.anchor (.word (← wordMark start)))
                | 'B' => pure (.anchor (.word .inside))
                | '<' => pure (.anchor (.word .start))
                | '>' => pure (.anchor (.word .stop))
                | _ => fail .escapeUnrecognized span

/-- The next character as it is. -/
def verbatim : Reading Atom := do
  match ← peek with
  | none => failHere .escapeUnfinished
  | some c =>
      let span ← nextSpan
      skip 1
      pure (.char ⟨c, span, false⟩)

/-- The next item of a pattern. -/
def atom : Reading Atom := do
  let span ← nextSpan
  match ← peek with
  | some '\\' => escape
  | some '.' =>
      skip 1
      pure (.dot span)
  | some '^' =>
      skip 1
      pure (.anchor .lineStart)
  | some '$' =>
      skip 1
      pure (.anchor .lineStop)
  | _ => verbatim

end Glossary.Pattern.Reading
