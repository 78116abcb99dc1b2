import Glossary.Section
import Glossary.Text.Blank
import Glossary.Text.Lines

/-!
# Lines of a reference

What a single line of a reference can be: a heading, the heading of an item, the start of a
description, the mark before an example, or a fence around it. `Place` is where in the reference
a line stands, that is under which section and in which group.

## Main results

* `isHeading_of_itemHeading?` — the heading of an item is a heading.
* `Place.Grouped.past`, `Place.Grouped.within` — a group never outlives the section that it was
  opened in.
-/

namespace Glossary.Reference

open Text

/-- The characters of one line. -/
abbrev Line := List Char

def descriptionMark : List Char := "**Description**:".toList

def exampleMark : List Char := "**Example**:".toList

def fence : List Char := "\x60\x60\x60".toList

/-- Whether a line holds nothing but blanks. -/
def isBlankLine (l : Line) : Bool := allBlank l

/-- The number of `#` at the start of a text. -/
def level (s : List Char) : Nat := (s.takeWhile (· == '#')).length

/-- Headings of any depth: up to six `#`, then a blank or the end of the line. -/
def isHeading (l : Line) : Bool :=
  let s := trimStart l
  1 ≤ level s && level s ≤ 6 && (s.dropWhile (· == '#')).head?.all isBlank

/-- The text of an item's heading, which is `###` at the very start of a line, then a blank. -/
def itemHeading? (l : Line) : Option (List Char) :=
  match dropPrefix? ['#', '#', '#'] l with
  | some (c :: rest) => if isBlank c then some (trim (c :: rest)) else none
  | _ => none

theorem isHeading_of_itemHeading? {l : Line} (h : (itemHeading? l).isSome) :
    isHeading l = true := by
  unfold itemHeading? at h
  split at h
  · next c rest hl =>
      obtain rfl := dropPrefix?_eq_some_iff.1 hl
      split at h
      · next hc =>
          have hne : (c == '#') = false := by
            rw [beq_eq_false_iff_ne]
            rintro rfl
            exact absurd hc (by decide)
          have hs : isBlank '#' = false := by decide
          simp [isHeading, trimStart, level, hne, hc, hs]
      · simp at h
  · simp at h

/-- The first line of a description, when the line starts one. -/
def description? (l : Line) : Option (List Char) :=
  (dropPrefix? descriptionMark (trimStart l)).map trim

/-- Whether the line announces an example. -/
def isExampleMark (l : Line) : Bool := opensWith exampleMark l

/-- Whether the line opens or closes an example. -/
def isFence (l : Line) : Bool := opensWith fence l

/-- Where a description ends. -/
def endsDescription (l : Line) : Bool := isBlankLine l || isExampleMark l || isHeading l

/-- The token that an item's heading names: without one pair of backticks around it, if nothing
but the token stands between them. -/
def tokenOf (heading : List Char) : List Char :=
  let s := trim heading
  match s with
  | '\x60' :: rest =>
      let inner := rest.dropLast
      if rest.getLast? = some '\x60' && inner ≠ [] && !inner.contains '\x60' then inner else s
  | _ => s

/-- The section and the group that an item stands in. -/
structure Place where
  inSection? : Option Section
  inGroup? : Option Category
  deriving DecidableEq, Repr

namespace Place

/-- Before any heading. -/
def outside : Place := ⟨none, none⟩

/-- The section that a line opens: by a line of one or two `#`, wherever it starts, with or
without a blank behind them. -/
def opened? (l : Line) : Option Section :=
  let s := trim l
  if 1 ≤ level s && level s ≤ 2 then Section.ofHeading? (s.dropWhile (· == '#')) else none

/-- The place behind a line. A section that is opened anew has no group yet; the same section
named again goes on. -/
def past (p : Place) (l : Line) : Place :=
  match opened? l with
  | some s => if p.inSection? = some s then p else ⟨some s, none⟩
  | none => p

/-- The place behind an item's heading that has no description: the group it names, if any. -/
def within (p : Place) (heading : List Char) : Place :=
  match p.inSection?.bind (·.group? heading) with
  | some c => { p with inGroup? := some c }
  | none => p

/-- The category of the entries at a place. -/
def category (p : Place) (s : Section) : Category := p.inGroup?.getD s.defaultCategory

/-- A group that is set belongs to the section that is open. -/
def Grouped (p : Place) : Prop :=
  ∀ c, p.inGroup? = some c → ∃ s, p.inSection? = some s ∧ c.section? = some s

variable {p : Place}

theorem grouped_outside : outside.Grouped := by
  intro c hc
  cases hc

theorem Grouped.past (h : p.Grouped) (l : Line) : (p.past l).Grouped := by
  unfold Place.past
  split
  · split
    · exact h
    · intro c hc
      cases hc
  · exact h

theorem Grouped.within (h : p.Grouped) (heading : List Char) : (p.within heading).Grouped := by
  unfold Place.within
  split
  · next c hc =>
      obtain ⟨s, hs, hgroup⟩ := Option.bind_eq_some_iff.1 hc
      intro d hd
      obtain rfl : c = d := Option.some.inj hd
      exact ⟨s, hs, Section.section?_group? hgroup⟩
  · exact h

/-- The category of an entry is one of the section that is open. -/
theorem Grouped.section?_category (h : p.Grouped) {s : Section} (hs : p.inSection? = some s) :
    (p.category s).section? = some s := by
  unfold category
  cases hgroup : p.inGroup? with
  | none => exact Section.section?_defaultCategory s
  | some c =>
      obtain ⟨t, ht, hc⟩ := h c hgroup
      rw [Option.getD_some, hc, ← ht, hs]

end Place

end Glossary.Reference
