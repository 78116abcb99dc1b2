import Glossary.Source.Position
import Glossary.Text.Lines

/-!
# What is wrong with a pattern

The ways in which a pattern can be malformed, and how one is shown: the pattern itself with marks
under the place, and a line that says what is wrong there.

## Main results

* `marks_length_le` — the marks under a place reach at least as far as the place.
-/

namespace Glossary

namespace Pattern

/-- Why a pattern is not accepted. -/
inductive Flaw where
  | setUnclosed
  | setEscape
  | rangeInvalid
  | rangeNotLiteral
  | decimalInvalid
  | countEmpty
  | countInvalid
  | countUnclosed
  | escapeUnfinished
  | escapeUnrecognized
  | backreference
  | hexEmpty
  | hexInvalid
  | hexDigitInvalid
  | flagDangling
  | flagDuplicate
  | flagHyphenRepeated
  | flagUnfinished
  | flagUnrecognized
  | groupNameDuplicate
  | groupNameEmpty
  | groupNameInvalid
  | groupNameUnclosed
  | groupUnclosed
  | groupUnopened
  | lookAround
  | nestedTooDeep
  | repetitionMissing
  | wordMarkUnclosed
  | wordMarkUnrecognized
  | wordMarkUnfinished
  | propertyInvalid
  | unicodeNotAllowed
  | invalidUtf8
  | propertyUnknown
  | propertyValueUnknown
  deriving DecidableEq, Repr

/-- How deep the parts of a pattern may be nested. -/
def depthLimit : Nat := 250

/-- What is wrong, in words. -/
def Flaw.text : Flaw → String
  | .setUnclosed => "unclosed character class"
  | .setEscape => "invalid escape sequence found in character class"
  | .rangeInvalid => "invalid character class range, the start must be <= the end"
  | .rangeNotLiteral => "invalid range boundary, must be a literal"
  | .decimalInvalid => "decimal literal invalid"
  | .countEmpty => "repetition quantifier expects a valid decimal"
  | .countInvalid => "invalid repetition count range, the start must be <= the end"
  | .countUnclosed => "unclosed counted repetition"
  | .escapeUnfinished => "incomplete escape sequence, reached end of pattern prematurely"
  | .escapeUnrecognized => "unrecognized escape sequence"
  | .backreference => "backreferences are not supported"
  | .hexEmpty => "hexadecimal literal empty"
  | .hexInvalid => "hexadecimal literal is not a Unicode scalar value"
  | .hexDigitInvalid => "invalid hexadecimal digit"
  | .flagDangling => "dangling flag negation operator"
  | .flagDuplicate => "duplicate flag"
  | .flagHyphenRepeated => "flag negation operator repeated"
  | .flagUnfinished => "expected flag but got end of regex"
  | .flagUnrecognized => "unrecognized flag"
  | .groupNameDuplicate => "duplicate capture group name"
  | .groupNameEmpty => "empty capture group name"
  | .groupNameInvalid => "invalid capture group character"
  | .groupNameUnclosed => "unclosed capture group name"
  | .groupUnclosed => "unclosed group"
  | .groupUnopened => "unopened group"
  | .lookAround => "look-around, including look-ahead and look-behind, is not supported"
  | .nestedTooDeep =>
      s!"exceed the maximum number of nested parentheses/brackets ({depthLimit})"
  | .repetitionMissing => "repetition operator missing expression"
  | .wordMarkUnclosed =>
      "special word boundary assertion is either unclosed or contains an invalid character"
  | .wordMarkUnrecognized =>
      "unrecognized special word boundary assertion, valid choices are: start, end, start-half " ++
        "or end-half"
  | .wordMarkUnfinished =>
      "found either the beginning of a special word boundary or a bounded repetition on a \\b " ++
        "with an opening brace, but no closing brace"
  | .propertyInvalid => "invalid Unicode character class"
  | .unicodeNotAllowed => "Unicode not allowed here"
  | .invalidUtf8 => "pattern can match invalid UTF-8"
  | .propertyUnknown => "Unicode property not found"
  | .propertyValueUnknown => "Unicode property value not found"

/-- A flaw and its place. -/
structure Finding where
  flaw : Flaw
  span : Span
  /-- The place of what is repeated, if the flaw is a repetition. -/
  earlier? : Option Span
  deriving DecidableEq, Repr

namespace Finding

/-- The places of the finding in their order. -/
def spans (f : Finding) : List Span :=
  match f.earlier? with
  | none => [f.span]
  | some e => if e.start.offset ≤ f.span.start.offset then [e, f.span] else [f.span, e]

/-- Whether a place lies on one line. -/
def isOnLine (line : Nat) (s : Span) : Bool := s.start.line == line && s.stop.line == line

/-- Marks under places that lie on one line, behind the `column` marks already made. Even an empty
place has a mark. -/
def marks (column : Nat) : List Span → List Char
  | [] => []
  | s :: rest =>
      let gap := s.start.column - 1 - column
      let length := max 1 (s.stop.column - s.start.column)
      List.replicate gap ' ' ++ List.replicate length '^' ++ marks (column + gap + length) rest

theorem marks_length_le (column : Nat) (s : Span) :
    s.start.column - 1 - column < (marks column [s]).length := by
  simp only [marks, List.length_append, List.length_replicate, List.length_nil]
  omega

/-- The lines of a pattern, each with the marks under it. The lines are numbered if there are
several. -/
def marked (f : Finding) (pattern : String) : List String :=
  let lines := Text.lines pattern.toList
  let count := lines.length + (if pattern.endsWith "\n" then 1 else 0)
  let width := (toString count).length
  lines.zipIdx.flatMap fun (line, i) =>
    let number := toString (i + 1)
    let margin :=
      if count ≤ 1 then "    "
      else String.ofList (List.replicate (width - number.length) ' ') ++ number ++ ": "
    let blank := String.ofList (List.replicate margin.length ' ')
    let here := f.spans.filter (isOnLine (i + 1))
    (margin ++ String.ofList line) ::
      (if here = [] then [] else [blank ++ String.ofList (marks 0 here)])

/-- What is said of a place that spreads over lines. -/
def note (s : Span) : String :=
  s!"on line {s.start.line} (column {s.start.column}) through line {s.stop.line} " ++
    s!"(column {s.stop.column - 1})"

/-- The finding with the pattern it is about. A pattern of several lines is set apart. -/
def display (f : Finding) (pattern : String) : String :=
  let lines := f.marked pattern
  let ends := [s!"error: {f.flaw.text}"]
  "\n".intercalate <| "regex parse error:" ::
    if pattern.contains '\n' then
      let rule := String.ofList (List.replicate 79 '~')
      let notes := (f.spans.filter fun s => s.start.line != s.stop.line).map note
      rule :: lines ++ rule :: notes ++ ends
    else lines ++ ends

end Finding

end Pattern

end Glossary
