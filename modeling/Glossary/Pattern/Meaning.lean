import Glossary.Pattern.Flaw
import Glossary.Pattern.Form
import Glossary.Pattern.Syntax
import Glossary.Unicode.Name

/-!
# What a pattern means

The plain form of a pattern. Flags hold from where they are set to the end of the group around.
Without the flag for Unicode, sets are sets of bytes, and what could match a part of a character
is refused.

## Main results

* `form_level` — levels have no meaning.
-/

namespace Glossary.Pattern

open Unicode (CharSet)

/-- The flags that change what a pattern finds. -/
structure Mode where
  ignoreCase : Bool
  manyLines : Bool
  dotAll : Bool
  unicode : Bool
  returns : Bool
  deriving DecidableEq, Repr

namespace Mode

/-- The flags at the start of a pattern. -/
def initial : Mode := ⟨false, false, false, true, false⟩

def change (m : Mode) (c : FlagChange) : Mode :=
  ⟨c.apply .ignoreCase m.ignoreCase, c.apply .manyLines m.manyLines, c.apply .dotAll m.dotAll,
    c.apply .unicode m.unicode, c.apply .returns m.returns⟩

/-- A set with the case left aside, if it is to be. -/
def spread (m : Mode) (s : CharSet) : CharSet :=
  if !m.ignoreCase then s else if m.unicode then s.caseless else s.asciiCaseless

/-- A set, or all characters outside it. -/
def negate (m : Mode) (negated : Bool) (span : Span) (s : CharSet) : Except Finding CharSet :=
  if !negated then .ok s
  else if m.unicode then .ok s.not
  else .error ⟨.invalidUtf8, span, none⟩

end Mode

/-- The characters that words are made of. -/
def words (m : Mode) : CharSet :=
  if m.unicode then CharSet.word else CharSet.ofText "30-39 41-5a 5f 61-7a"

/-- What a shorthand stands for. -/
def Shorthand.set (m : Mode) : Shorthand → CharSet
  | .digit => if m.unicode then .categories [.decimalNumber] else .ofText "30-39"
  | .space => if m.unicode then .ranges Unicode.Property.whiteSpace else .ofText "9-d 20"
  | .word => words m

/-- The sets of ASCII that have names. -/
def AsciiSet.set : AsciiSet → CharSet
  | .alnum => .ofText "30-39 41-5a 61-7a"
  | .alpha => .ofText "41-5a 61-7a"
  | .ascii => .ofText "0-7f"
  | .blank => .ofText "9 20"
  | .cntrl => .ofText "0-1f 7f"
  | .digit => .ofText "30-39"
  | .graph => .ofText "21-7e"
  | .lower => .ofText "61-7a"
  | .print => .ofText "20-7e"
  | .punct => .ofText "21-2f 3a-40 5b-60 7b-7e"
  | .space => .ofText "9-d 20"
  | .upper => .ofText "41-5a"
  | .word => .ofText "30-39 41-5a 5f 61-7a"
  | .xdigit => .ofText "30-39 41-46 61-66"

/-- The set of a property, which must be known. -/
def propertySet (m : Mode) (span : Span) (found : Except Unicode.NameError CharSet) :
    Except Finding CharSet :=
  if !m.unicode then .error ⟨.unicodeNotAllowed, span, none⟩
  else
    match found with
    | .ok s => .ok (m.spread s)
    | .error .unknownProperty => .error ⟨.propertyUnknown, span, none⟩
    | .error .unknownValue => .error ⟨.propertyValueUnknown, span, none⟩

/-- The set that a name stands for. -/
def NamedSet.set (m : Mode) (n : NamedSet) : Except Finding CharSet :=
  match n.name with
  | .shorthand s => m.negate n.negated n.span (s.set m)
  | .ascii s => m.negate n.negated n.span (m.spread s.set)
  | .property name =>
      propertySet m n.span (CharSet.ofName name) >>= m.negate n.negated n.span
  | .propertyValue name value =>
      propertySet m n.span (CharSet.ofValue name value) >>= m.negate n.negated n.span

/-- A character that is no byte of a text is refused where bytes are meant. -/
def Literal.check (m : Mode) (l : Literal) : Except Finding Unit :=
  if !m.unicode && l.isByte && 127 < l.char.toNat then .error ⟨.invalidUtf8, l.span, none⟩
  else .ok ()

/-- A character in brackets. -/
def Literal.member (m : Mode) (l : Literal) : Except Finding Char := do
  l.check m
  if !m.unicode && 127 < l.char.toNat then throw ⟨.unicodeNotAllowed, l.span, none⟩
  pure l.char

/-- The set that stands in brackets. -/
def SetExpr.set (m : Mode) : SetExpr → Except Finding CharSet
  | .empty => .ok .empty
  | .char l => (l.member m).map .single
  | .range first last => do
      let low ← first.member m
      let high ← last.member m
      pure (.ranges ⟨#[(low.toNat, high.toNat)]⟩)
  | .named n => n.set m
  | .either a b => do
      let s ← a.set m
      pure (s ||| (← b.set m))
  | .combine op a b => do
      let s ← a.set m
      let t ← b.set m
      pure (.combine op (m.spread s) (m.spread t))
  | .bracket negated span s => do m.negate negated span (m.spread (← s.set m))
  | .level _ s => s.set m

/-- The condition that a mark on words stands for. -/
def WordMark.look (words : CharSet) : WordMark → Look
  | .boundary => .boundary words
  | .inside => .inside words
  | .start => .wordStart words
  | .stop => .wordStop words
  | .startHalf => .noneBefore words
  | .stopHalf => .noneBehind words

/-- The condition that an anchor stands for. -/
def Anchor.look (m : Mode) : Anchor → Look
  | .textStart => .textStart
  | .textStop => .textStop
  | .lineStart =>
      if !m.manyLines then .textStart else if m.returns then .returnStart else .lineStart
  | .lineStop => if !m.manyLines then .textStop else if m.returns then .returnStop else .lineStop
  | .word mark => mark.look (words m)

/-- What a dot stands for. -/
def dotSet (m : Mode) : CharSet :=
  if m.dotAll then .all else .not (.ofText (if m.returns then "a d" else "a"))

/-- The form of an item. -/
def Atom.form (m : Mode) : Atom → Except Finding Form
  | .char l => do
      l.check m
      pure (.chars (m.spread (.single l.char)))
  | .dot span => if m.unicode then .ok (.chars (dotSet m)) else .error ⟨.invalidUtf8, span, none⟩
  | .anchor a => .ok (.look (a.look m))
  | .named n => (n.set m).map .chars

/-- The form of a pattern under the flags that hold at its start, and the flags that hold at its
end. -/
def Expr.form (m : Mode) : Expr → Except Finding (Form × Mode)
  | .empty => .ok (.empty, m)
  | .flags c => .ok (.empty, m.change c)
  | .atom a => do pure (← a.form m, m)
  | .set s => do pure (.chars (← s.set m), m)
  | .times e least most? => do
      let (f, m) ← e.form m
      pure (.times f least most?, m)
  | .group c remembered e => do
      let (f, _) ← e.form (m.change c)
      pure (if remembered then .remember f else f, m)
  | .seq a b => do
      let (f, m) ← a.form m
      let (g, m) ← b.form m
      pure (.seq f g, m)
  | .either a b => do
      let (f, m) ← a.form m
      let (g, m) ← b.form m
      pure (.either f g, m)
  | .level _ e => e.form m

theorem form_level (m : Mode) (span : Span) (e : Expr) : (Expr.level span e).form m = e.form m :=
  rfl

end Glossary.Pattern
