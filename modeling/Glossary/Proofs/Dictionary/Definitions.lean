import Glossary.Proofs.Dictionary.Exchange
import Glossary.Proofs.Dictionary.Outcome
import Glossary.Proofs.Dictionary.Pieces
import Glossary.Proofs.Reference.Entries

/-!
# Definitions that can be loaded

Parsing and loading ask different things of an entry. A reference may explain any token that is
not empty, even one with blanks inside, and may leave its description out; loading refuses both,
and descriptions that are too long, and entries for which there is no room. What is written for
a reference is read back as it was, so nothing else can go wrong on the way, and yet the
definitions of a reference need not be data that can be loaded.

Merging stands between the two. It gathers the entries for one token, so it can mend an entry
without a description, and an entry that is too long does no harm where another outranks it.
Hence what has to be asked of a reference is asked of each token and of the entries that lead
for it.

## Main results

* `Reference.WellFormed.absorb` — merged entries have the form of parsed ones.
* `Summarizes.sound_iff` — when the entry that is left for a token is sound.
* `Generated.definitions_load_iff` — when the definitions can be loaded.
* `Generated.not_all_definitions_load` — they cannot always.
-/

namespace Glossary

open Text

/-! ## The form of merged entries -/

namespace Reference

/-- What is kept of two entries in the common form has the common form. -/
theorem WellFormed.absorb {e later : Entry} (he : WellFormed e) (hlater : WellFormed later) :
    WellFormed (e.absorb later) := by
  have hshown : (e.absorb later).Shown := he.shown.absorb hlater.shown
  rcases Nat.lt_trichotomy e.rank later.rank with hlt | heq | hgt
  · rw [Entry.absorb_of_lt hlt]
    exact hlater
  · -- token and category stay, and each text is that of one of the two
    rw [Entry.absorb_of_eq heq] at hshown ⊢
    have hdescription := longer_cases String.utf8ByteSize e.description later.description
    have hexample := longer_cases (fun text => (text.map String.utf8ByteSize).getD 0)
      e.example? later.example?
    refine ⟨he.token_ne, he.category_ne, ?_, ?_, hshown, ?_⟩
    · rcases hdescription with h | h
      · simpa only [h] using he.trimmed
      · simpa only [h] using hlater.trimmed
    · rcases hdescription with h | h
      · simpa only [h] using he.further
      · simpa only [h] using hlater.further
    · rcases hexample with h | h
      · simpa only [h] using he.unfenced
      · simpa only [h] using hlater.unfenced
  · rw [Entry.absorb_of_gt hgt]
    exact he

/-- Merged entries of a reference have the common form. -/
theorem wellFormed_of_mem_merge {source : String} {parsed : List Entry}
    (h : parse source = .ok parsed) : ∀ e ∈ merge parsed, WellFormed e := by
  obtain ⟨r, hreached, rfl⟩ := exists_reaches_of_parse h
  have hparsed := hreached.wellFormed fun l => newline_not_mem_of_mem_lines
  exact forall_mem_merge (fun _ _ => WellFormed.absorb) hparsed

/-- A trimmed description is there unless it is empty. -/
theorem WellFormed.described_iff {e : Entry} (h : WellFormed e) :
    (∃ c ∈ e.description.toList, isBlank c = false) ↔ e.description ≠ "" := by
  constructor
  · rintro ⟨c, hc, -⟩ hempty
    rw [hempty] at hc
    cases hc
  · intro hne
    have hchars : e.description.toList ≠ [] := by simpa using hne
    cases hhead : e.description.toList.head? with
    | none => exact absurd (List.head?_eq_none_iff.1 hhead) hchars
    | some c =>
        refine ⟨c, List.mem_of_head? hhead, ?_⟩
        rw [← h.trimmed] at hhead
        exact isBlank_head_trim hhead

/-- The flaws that an entry of a reference may have. -/
inductive Unchecked (e : Entry) : EntryFlaw → Prop where
  | blank : Unchecked e (.whitespaceInToken e.token)
  | silent : Unchecked e (.missingDescription e.token)
  | long : Unchecked e (.descriptionTooLong e.token e.description.utf8ByteSize)

/-- An entry in the common form has a token, and its category is not reserved. -/
theorem WellFormed.unchecked {e : Entry} (h : WellFormed e) {flaw : EntryFlaw}
    (hflaw : e.flaw? = some flaw) : Unchecked e flaw := by
  rw [Entry.flaw?, if_neg h.token_ne] at hflaw
  split at hflaw
  · obtain rfl := Option.some.inj hflaw
    exact .blank
  rw [if_neg h.category_ne] at hflaw
  split at hflaw
  · obtain rfl := Option.some.inj hflaw
    exact .silent
  split at hflaw
  · obtain rfl := Option.some.inj hflaw
    exact .long
  · cases hflaw

end Reference

/-! ## The entries that lead -/

/-- A description that is left is one of those that lead, and none of them is longer. -/
theorem Summarizes.longest {es : List Entry} {e : Entry} (h : Summarizes es e) :
    (∃ f ∈ es, f.description = e.description) ∧
      ∀ f ∈ es, f.description.utf8ByteSize ≤ e.description.utf8ByteSize := by
  obtain ⟨f, hf, hdescription⟩ := Option.map_eq_some_iff.1 h.description_eq
  refine ⟨⟨f, List.argmax_mem hf, hdescription⟩, ?_⟩
  intro g hg
  rw [← hdescription]
  exact List.le_of_mem_argmax (f := fun e : Entry => e.description.utf8ByteSize) hg hf

/-- What has to be so for one token of a reference: the token has no blank in it, an entry that
leads for it has a description, and none of those entries has one that is too long. -/
structure Servable (parsed : List Entry) (token : String) : Prop where
  solid : ∀ c ∈ token.toList, isBlank c = false
  described : ∃ e ∈ leading token parsed, e.description ≠ ""
  short : ∀ e ∈ leading token parsed,
    e.description.utf8ByteSize ≤ Limits.maxDescriptionLength

/-- The entry that is left for a token is sound when the token is servable. -/
theorem Summarizes.sound_iff {parsed : List Entry} {e : Entry}
    (h : Summarizes (leading e.token parsed) e) (hform : Reference.WellFormed e) :
    e.Sound ↔ Servable parsed e.token := by
  obtain ⟨⟨f, hf, hdescription⟩, hlongest⟩ := h.longest
  constructor
  · intro hsound
    refine ⟨hsound.token_solid, ⟨f, hf, ?_⟩, ?_⟩
    · rw [hdescription]
      exact hform.described_iff.1 hsound.described
    · intro g hg
      exact (hlongest g hg).trans hsound.description_le
  · rintro ⟨hsolid, ⟨g, hg, hne⟩, hshort⟩
    refine ⟨hform.token_ne, hsolid, hform.category_ne, hform.described_iff.2 ?_, ?_⟩
    · -- an empty description would be the longest, and so the only one
      intro hempty
      have hle := hlongest g hg
      rw [hempty] at hle
      exact hne (String.utf8ByteSize_eq_zero_iff.1 (Nat.le_zero.1 hle))
    · rw [← hdescription]
      exact hshort f hf

/-- Merged entries can be loaded when each token is servable and there are not too many. -/
theorem exists_load_merge_iff {source : String} {parsed : List Entry}
    (h : Reference.parse source = .ok parsed) :
    (∃ s, Store.load (merge parsed) = .ok s) ↔
      (tokensOf parsed).length ≤ Limits.maxEntries ∧
        ∀ token ∈ tokensOf parsed, Servable parsed token := by
  have hsound : ∀ e ∈ merge parsed, (e.Sound ↔ Servable parsed e.token) := by
    intro e he
    obtain ⟨-, hsummary⟩ := summarizes_of_get? (get?_of_mem_merge he)
    exact hsummary.sound_iff (Reference.wellFormed_of_mem_merge h e he)
  rw [Store.exists_load_iff, forall₂_congr hsound, ← map_token_merge, List.length_map,
    List.forall_mem_map]

/-! ## Definitions -/

namespace Generated

/-- The definitions of a reference can be loaded from their JSON exactly when there are not too
many tokens and each of them is servable. Where they cannot, loading fails for want of room or
with a flaw that a definition has and that parsing lets pass: it never fails because of the JSON,
of an empty token or of a reserved category. -/
theorem definitions_load_iff {source title : String} {g : Generated}
    (h : ofReference source title = .ok g) :
    ∃ parsed, Reference.parse source = .ok parsed ∧
      ((∃ s, Store.ofJson (Entry.writeList g.definitions) = .ok s) ↔
        (tokensOf parsed).length ≤ Limits.maxEntries ∧
          ∀ token ∈ tokensOf parsed, Servable parsed token) ∧
      ∀ error, Store.ofJson (Entry.writeList g.definitions) = .error error →
        (error = .tooManyEntries ∧ Limits.maxEntries < g.definitions.length) ∨
        ∃ e ∈ g.definitions, ∃ flaw, e.flaw? = some flaw ∧ Reference.Unchecked e flaw ∧
          error = .flawed flaw := by
  obtain ⟨parsed, hparse, rfl⟩ := exists_of_ofReference_eq_ok h
  have hperm : (ofEntries title parsed).definitions.Perm (merge parsed) := sortEntries_perm _
  rw [Store.ofJson_writeList (shown_definitions hparse)]
  refine ⟨parsed, hparse, ?_, ?_⟩
  · rw [Store.exists_load_iff_of_perm hperm]
    exact exists_load_merge_iff hparse
  · intro error herror
    rcases Store.exists_of_load_eq_error herror with hfull | ⟨e, he, flaw, hflaw, rfl⟩
    · exact .inl hfull
    · have hform := Reference.wellFormed_of_mem_merge hparse e (hperm.mem_iff.1 he)
      exact .inr ⟨e, he, flaw, hflaw, hform.unchecked hflaw, rfl⟩

/-- An operator of two words. -/
def isNot : Entry := ⟨"is not", .operator, "Other identity.", none⟩

/-- A reference that explains it. -/
def isNotSource : String := "## Operators\n### \x60is not\x60\n**Description**: Other identity.\n"

theorem parse_isNotSource : Reference.parse isNotSource = .ok [isNot] := by decide +kernel

theorem definitions_isNot (title : String) : (ofEntries title [isNot]).definitions = [isNot] := by
  simp [ofEntries, sortEntries, merge, mergeEntry, FirstSeen.toList, FirstSeen.keys,
    FirstSeen.empty, FirstSeen.get?, FirstSeen.note, isNot]

theorem definitions_load_iff_isNot :
    ∃ g, ofReference isNotSource "Operators" = .ok g ∧
      Store.ofJson (Entry.writeList g.definitions) =
        .error (.flawed (.whitespaceInToken "is not")) := by
  have hg : ofReference isNotSource "Operators" = .ok (ofEntries "Operators" [isNot]) :=
    ofReference_eq_ok parse_isNotSource
  obtain ⟨parsed, hparse, hiff, herrors⟩ := definitions_load_iff hg
  obtain rfl : [isNot] = parsed := Except.ok.inj (parse_isNotSource.symm.trans hparse)
  refine ⟨_, hg, ?_⟩
  rw [definitions_isNot] at hiff herrors ⊢
  cases hload : Store.ofJson (Entry.writeList [isNot]) with
  | ok s =>
      obtain ⟨-, hservable⟩ := hiff.1 ⟨s, hload⟩
      have hsolid := (hservable "is not" (by decide)).solid
      exact absurd (hsolid ' ' (by decide)) (by decide)
  | error error =>
      rcases herrors error hload with ⟨-, hfull⟩ | ⟨e, he, flaw, hflaw, -, rfl⟩
      · exact absurd hfull (by decide)
      · have hblank : isNot.flaw? = some (.whitespaceInToken "is not") := by decide
        rw [List.mem_singleton.1 he] at hflaw
        rw [Option.some.inj (hflaw.symm.trans hblank)]

/-- The definitions of a reference cannot always be loaded. -/
theorem not_all_definitions_load :
    ¬∀ source title g, ofReference source title = .ok g →
      ∃ s, Store.ofJson (Entry.writeList g.definitions) = .ok s := by
  intro hall
  have hload := hall isNotSource "Operators" _ (ofReference_eq_ok parse_isNotSource)
  rw [definitions_isNot, Store.ofJson_writeList (by decide), Store.exists_load_iff] at hload
  have hsound := Entry.flaw?_eq_none_iff.2 (hload.2 isNot (by simp))
  exact absurd hsound (by decide)

end Generated

end Glossary
