import Glossary.Text.Blank
import Glossary.Text.Fragment
import Glossary.Text.Lowercase

/-!
# Categories and sections

Every entry of a dictionary has a category. Categories fall into four kinds, and the three kinds
that entries can have are the three sections of a reference. `Category.identifier` is the
category of tokens that no entry explains; no entry has it.

A reference names its sections, and groups of categories within a section, by headings. Headings
are free text, so they are recognized by the words in them, in any case.

## Main results

* `Category.ofName_name` — every category is read back from its name.
* `Section.section?_group?` — a group heading never leads out of its section.
-/

namespace Glossary

inductive Category where
  | keyword
  | builtinConstant
  | builtinFunction
  | builtinType
  | exceptionType
  | warningType
  | operator
  | delimiter
  | identifier
  deriving DecidableEq, Hashable, Repr

/-- What a category comes down to. -/
inductive Kind where
  | keyword
  | builtin
  | operator
  | identifier
  deriving DecidableEq, Repr

/-- The parts of a reference. -/
inductive Section where
  | keywords
  | builtins
  | operatorsAndDelimiters
  deriving DecidableEq, Repr

namespace Kind

def name : Kind → String
  | .keyword => "keyword"
  | .builtin => "builtin"
  | .operator => "operator"
  | .identifier => "identifier"

/-- Which kind wins when a token is listed under several; the larger number does. -/
def rank : Kind → Nat
  | .keyword => 3
  | .operator => 2
  | .builtin => 1
  | .identifier => 0

theorem rank_injective {k l : Kind} (h : k.rank = l.rank) : k = l := by
  cases k <;> cases l <;> simp_all [rank]

end Kind

/-- A name that no category has. -/
structure UnknownCategory where
  name : String
  deriving DecidableEq, Repr

def UnknownCategory.message (e : UnknownCategory) : String := s!"Unknown category: '{e.name}'"

namespace Category

/-- All categories, in the order in which views list them. -/
def all : List Category :=
  [.keyword, .builtinConstant, .builtinFunction, .builtinType, .exceptionType, .warningType,
    .operator, .delimiter, .identifier]

theorem mem_all (c : Category) : c ∈ all := by cases c <;> decide

/-- The name used in data and listings. -/
def name : Category → String
  | .keyword => "keyword"
  | .builtinConstant => "builtin-constant"
  | .builtinFunction => "builtin-function"
  | .builtinType => "builtin-type"
  | .exceptionType => "exception-type"
  | .warningType => "warning-type"
  | .operator => "operator"
  | .delimiter => "delimiter"
  | .identifier => "identifier"

/-- The heading of the category in grouped views. -/
def label : Category → String
  | .keyword => "Keywords"
  | .builtinConstant => "Built-in Constants"
  | .builtinFunction => "Built-in Functions"
  | .builtinType => "Built-in Types"
  | .exceptionType => "Exceptions"
  | .warningType => "Warnings"
  | .operator => "Operators"
  | .delimiter => "Delimiters"
  | .identifier => "Identifiers"

def kind : Category → Kind
  | .keyword => .keyword
  | .builtinConstant | .builtinFunction | .builtinType | .exceptionType | .warningType => .builtin
  | .operator | .delimiter => .operator
  | .identifier => .identifier

/-- The section that lists the category. -/
def section? (c : Category) : Option Section :=
  match c.kind with
  | .keyword => some .keywords
  | .builtin => some .builtins
  | .operator => some .operatorsAndDelimiters
  | .identifier => none

/-- Every category but one has a section. -/
theorem section?_isSome_iff {c : Category} : c.section?.isSome = true ↔ c ≠ .identifier := by
  cases c <;> decide

theorem eq_keyword_of_section? {c : Category} (h : c.section? = some .keywords) :
    c = .keyword := by
  cases c <;> simp [section?, kind] at h ⊢

/-- The category with exactly this name. `builtin` is an older name for functions. -/
def withName? (name : String) : Option Category :=
  if name = "builtin" then some .builtinFunction else all.find? (·.name == name)

/-- The category with this name, blanks around it aside. -/
def ofName (name : String) : Except UnknownCategory Category :=
  match withName? (String.ofList (Text.trim name.toList)) with
  | some c => .ok c
  | none => .error ⟨name⟩

theorem withName?_name (c : Category) : withName? c.name = some c := by
  cases c <;> decide +kernel

theorem ofName_name (c : Category) : ofName c.name = .ok c := by
  cases c <;> cbv

end Category

namespace Section

/-- All sections, in the order in which a reference is shown. -/
def all : List Section := [.keywords, .builtins, .operatorsAndDelimiters]

theorem mem_all (s : Section) : s ∈ all := by cases s <;> decide

/-- The name used in data. -/
def name : Section → String
  | .keywords => "keywords"
  | .builtins => "builtins"
  | .operatorsAndDelimiters => "operators-and-delimiters"

def title : Section → String
  | .keywords => "Keywords"
  | .builtins => "Builtins"
  | .operatorsAndDelimiters => "Operators & Delimiters"

/-- The category of entries that stand under no group heading. -/
def defaultCategory : Section → Category
  | .keywords => .keyword
  | .builtins => .builtinFunction
  | .operatorsAndDelimiters => .operator

/-- The section with exactly this name. -/
def withName? (name : String) : Option Section := all.find? (·.name == name)

/-- The value of the first row whose word occurs in a heading, in any case. -/
def byWord {α : Type} (rows : List (String × α)) (heading : List Char) : Option α :=
  let small := Text.lowercase heading
  (rows.find? fun row => Text.contains row.1.toList small).map (·.2)

/-- Words that name a section, in the order in which they are looked for. -/
def headingWords : List (String × Section) :=
  [("keywords", .keywords), ("builtins", .builtins), ("built-ins", .builtins),
    ("operators", .operatorsAndDelimiters)]

/-- Words that name a group of a section, in the order in which they are looked for. -/
def groupWords : Section → List (String × Category)
  | .keywords => []
  | .builtins =>
      [("warning", .warningType), ("exception", .exceptionType), ("constant", .builtinConstant),
        ("function", .builtinFunction), ("type", .builtinType), ("class", .builtinType)]
  | .operatorsAndDelimiters => [("delimiter", .delimiter), ("operator", .operator)]

/-- The section that a heading opens. -/
def ofHeading? (heading : List Char) : Option Section := byWord headingWords heading

/-- The category that a heading gives to the entries below it, inside this section. -/
def group? (s : Section) (heading : List Char) : Option Category :=
  byWord s.groupWords heading

theorem mem_of_byWord {α : Type} {rows : List (String × α)} {heading : List Char} {v : α}
    (h : byWord rows heading = some v) : v ∈ rows.map (·.2) := by
  simp only [byWord, Option.map_eq_some_iff] at h
  obtain ⟨row, hrow, rfl⟩ := h
  exact List.mem_map_of_mem (List.mem_of_find?_eq_some hrow)

theorem section?_group? {s : Section} {heading : List Char} {c : Category}
    (h : s.group? heading = some c) : c.section? = some s := by
  have hc := mem_of_byWord h
  cases s <;> simp [groupWords] at hc
  · rcases hc with rfl | rfl | rfl | rfl | rfl | rfl <;> rfl
  · rcases hc with rfl | rfl <;> rfl

theorem section?_defaultCategory (s : Section) : s.defaultCategory.section? = some s := by
  cases s <;> rfl

end Section

end Glossary
