import Glossary.Analysis
import Glossary.FirstSeen

/-!
# Groups of matches

The tokens of an analysis by category: each text once, in order of first appearance, with how
often it occurs and where it was first seen.
-/

namespace Glossary

/-- A text that occurs in an analysis. -/
structure GroupedToken where
  text : String
  description : String
  count : Nat
  firstOffset : Nat
  deriving DecidableEq, Repr

/-- The texts of one category. -/
structure Group where
  category : Category
  tokens : List GroupedToken
  deriving DecidableEq, Repr

namespace Group

/-- The heading of the group. -/
def label (g : Group) : String := g.category.label

/-- How often all texts of the group occur together. -/
def occurrences (g : Group) : Nat := g.tokens.foldr (fun t n => t.count + n) 0

/-- Counts one more match. -/
def tally (seen : FirstSeen (Category × String) GroupedToken) (m : Match) :
    FirstSeen (Category × String) GroupedToken :=
  seen.note (m.category, m.text) ⟨m.text, m.description, 1, m.start⟩
    fun t => { t with count := t.count + 1 }

/-- The group of one category. -/
def ofTally (seen : FirstSeen (Category × String) GroupedToken) (c : Category) : Group :=
  ⟨c, (seen.keys.filter (·.1 == c)).filterMap seen.get?⟩

/-- The groups of matches, for the categories that occur. -/
def ofMatches (ms : List Match) : List Group :=
  let seen := ms.foldl tally .empty
  (Category.all.map (ofTally seen)).filter (·.tokens ≠ [])

end Group

/-- The groups of an analysis, with or without that of the identifiers. -/
def Analysis.groups (a : Analysis) (includeIdentifiers : Bool) : List Group :=
  Group.ofMatches (a.found.toList.filter fun m => includeIdentifiers || m.isKnown)

end Glossary
