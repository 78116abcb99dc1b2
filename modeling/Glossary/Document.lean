import Glossary.Entry

/-!
# Documents

A document lists entries section by section, in the order in which a reader looks tokens up:
capitals and small letters alike, and by exact text where that leaves a choice.

## Main results

* `compareTokens_eq_iff` — only equal tokens share a place in the order.
* `Document.ofEntries_sections` — a document has every section, in their fixed order.
-/

namespace Glossary

/-- The order of tokens in lists. -/
def compareTokens (a b : String) : Ordering :=
  (compare (Text.lowercase a.toList) (Text.lowercase b.toList)).then (compare a.toList b.toList)

theorem compareTokens_eq_iff {a b : String} : compareTokens a b = .eq ↔ a = b := by
  unfold compareTokens
  constructor
  · intro h
    rw [Ordering.then_eq_eq] at h
    exact String.toList_inj.1 (Std.LawfulEqOrd.eq_of_compare h.2)
  · rintro rfl
    simp

/-- Entries in the order of their tokens; entries with one token stay as they stand. -/
def sortEntries (es : List Entry) : List Entry :=
  es.mergeSort fun a b => (compareTokens a.token b.token).isLE

/-- One section with its entries. -/
structure DocumentSection where
  part : Section
  title : String
  entries : List Entry
  deriving DecidableEq, Repr

/-- A reference as it is shown. -/
structure Document where
  title : String
  sections : List DocumentSection
  deriving DecidableEq, Repr

namespace Document

/-- The entries of one section, sorted. -/
def sectionOf (es : List Entry) (s : Section) : DocumentSection :=
  ⟨s, s.title, sortEntries (es.filter (·.category.section? == some s))⟩

/-- Sorts entries into a document. Every section is there, even if it is empty. -/
def ofEntries (title : String) (es : List Entry) : Document :=
  ⟨title, Section.all.map (sectionOf es)⟩

theorem ofEntries_sections (title : String) (es : List Entry) :
    (ofEntries title es).sections.map (·.part) = Section.all := by
  simp [ofEntries, Section.all, sectionOf]

/-- All entries, section by section. -/
def entries (d : Document) : List Entry := d.sections.flatMap (·.entries)

def entryCount (d : Document) : Nat := d.sections.foldr (fun s n => s.entries.length + n) 0

theorem entryCount_eq (d : Document) : d.entryCount = d.entries.length := by
  rw [entryCount, entries]
  induction d.sections with
  | nil => rfl
  | cons s rest ih => rw [List.foldr_cons, ih, List.flatMap_cons, List.length_append]

/-- The section of a kind, if the document has it. -/
def section? (d : Document) (s : Section) : Option DocumentSection := d.sections.find? (·.part == s)

/-- The first entry for a token. -/
def find? (d : Document) (token : String) : Option Entry := d.entries.find? (·.token == token)

end Document

end Glossary
