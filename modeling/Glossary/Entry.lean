import Glossary.Limits
import Glossary.Section
import Glossary.Text.Blank

/-!
# Entries

An entry explains one token: its category, a description and perhaps an example. An entry is
sound when a dictionary can serve it. `Entry.flaw?` gives the first reason why it cannot, and the
order of the reasons is part of what users see.

## Main results

* `Entry.flaw?_eq_none_iff` — the sound entries, each condition by itself.
-/

namespace Glossary

/-- What a dictionary says about a token. -/
structure Entry where
  token : String
  category : Category
  description : String
  example? : Option String
  deriving DecidableEq, Repr

/-- Why a dictionary does not take an entry. -/
inductive EntryFlaw where
  | emptyToken
  | whitespaceInToken (token : String)
  | reservedCategory (token : String)
  | missingDescription (token : String)
  | descriptionTooLong (token : String) (length : Nat)
  deriving DecidableEq, Repr

/-- The wording of each flaw. -/
def EntryFlaw.message : EntryFlaw → String
  | .emptyToken => "Dictionary entry has an empty token"
  | .whitespaceInToken token => s!"Dictionary token '{token}' contains whitespace"
  | .reservedCategory token => s!"Dictionary entry '{token}' uses the reserved identifier category"
  | .missingDescription token => s!"Dictionary entry '{token}' has no description"
  | .descriptionTooLong token length =>
      s!"Description for '{token}' is {length} bytes (limit {Limits.maxDescriptionLength})"

namespace Entry

/-- An example that is not blank. -/
def shownExample (text : Option String) : Option String :=
  text.filter fun t => !Text.allBlank t.toList

/-- An entry; a blank example is none. -/
def make (token : String) (category : Category) (description : String) (text : Option String) :
    Entry :=
  ⟨token, category, description, shownExample text⟩

/-- The first reason why a dictionary would not take the entry. -/
def flaw? (e : Entry) : Option EntryFlaw :=
  if e.token = "" then some .emptyToken
  else if e.token.toList.any Text.isBlank then some (.whitespaceInToken e.token)
  else if e.category = .identifier then some (.reservedCategory e.token)
  else if Text.allBlank e.description.toList then some (.missingDescription e.token)
  else if Limits.maxDescriptionLength < e.description.utf8ByteSize then
    some (.descriptionTooLong e.token e.description.utf8ByteSize)
  else none

theorem ite_eq_right_iff_of_ne {α : Type} {c : Prop} [Decidable c] {a b d : α} (h : a ≠ d) :
    (if c then a else b) = d ↔ ¬c ∧ b = d := by
  by_cases hc : c <;> simp [hc, h]

/-- An entry that a dictionary can serve. -/
structure Sound (e : Entry) : Prop where
  token_ne : e.token ≠ ""
  token_solid : ∀ c ∈ e.token.toList, Text.isBlank c = false
  category_ne : e.category ≠ .identifier
  described : ∃ c ∈ e.description.toList, Text.isBlank c = false
  description_le : e.description.utf8ByteSize ≤ Limits.maxDescriptionLength

theorem flaw?_eq_none_iff {e : Entry} : e.flaw? = none ↔ e.Sound := by
  unfold flaw?
  simp only [ite_eq_right_iff_of_ne (Option.some_ne_none _), and_true]
  constructor
  · rintro ⟨h1, h2, h3, h4, h5⟩
    exact ⟨h1, by simpa using h2, h3, by simpa [Text.allBlank] using h4, by omega⟩
  · rintro ⟨h1, h2, h3, h4, h5⟩
    exact ⟨h1, by simpa using h2, h3, by simpa [Text.allBlank] using h4, by omega⟩

end Entry

end Glossary
