import Glossary.Proofs.Dictionary.Agreement

/-!
# What a store shows

However a store was made, its table was loaded, so an entry that is looked up or
listed is sound and stands under its own token. The shadowed entries of a
reference are not loaded: they are put beside the table as they were parsed. Such
an entry is a constant whose token a keyword of the table has, and so its token
and its category are fit for a dictionary. Its description need not be, because
the keyword's description was checked in its place.

So everything that a store shows is sound exactly when its shadowed entries are
described.

## Main results

* `Store.Made.sound_of_find?` — entries that are looked up are sound.
* `Store.Made.find?_of_mem_shadowed` — a keyword has the token of a shadowed entry.
* `Store.Made.sound_shown_iff` — when everything that is shown is sound.
-/

namespace Glossary

/-- The description is one that a dictionary takes. -/
structure Entry.Described (e : Entry) : Prop where
  described : ∃ c ∈ e.description.toList, Text.isBlank c = false
  description_le : e.description.utf8ByteSize ≤ Limits.maxDescriptionLength

theorem Entry.Sound.toDescribed {e : Entry} (h : e.Sound) : e.Described :=
  ⟨h.described, h.description_le⟩

theorem Document.mem_entries_ofEntries {title : String} {es : List Entry} {e : Entry} :
    e ∈ (ofEntries title es).entries ↔ e ∈ es ∧ ∃ part, e.category.section? = some part := by
  simp only [entries, ofEntries, sectionOf, List.flatMap_map, List.mem_flatMap, mem_sortEntries,
    List.mem_filter, beq_iff_eq]
  constructor
  · rintro ⟨part, -, hmem, hpart⟩
    exact ⟨hmem, part, hpart⟩
  · rintro ⟨hmem, part, hpart⟩
    exact ⟨part, Section.mem_all part, hmem, hpart⟩

namespace Store

/-- The ways to make a store. -/
inductive Made : Store → Prop where
  | load {es : List Entry} {s : Store} (h : load es = .ok s) : Made s
  | ofJson {text : String} {s : Store} (h : ofJson text = .ok s) : Made s
  | ofReference {source : String} {s : Store} (h : ofReference source = .ok s) : Made s

/-- The ways in which a store shows an entry. -/
inductive Shows (s : Store) (e : Entry) : Prop where
  | lookup {token : String} (h : s.find? token = some e)
  | listed (h : e ∈ s.toList)
  | sorted (h : e ∈ s.sorted)
  | shadowed (h : e ∈ s.shadowed)
  | document {title : String} (h : e ∈ (s.document title).entries)

/-- Every store has a table that was loaded. -/
theorem Made.exists_load {s : Store} (h : s.Made) :
    ∃ es t, Store.load es = .ok t ∧ s.entries = t.entries := by
  cases h with
  | load h => exact ⟨_, _, h, rfl⟩
  | ofJson h =>
      obtain ⟨es, -, hload⟩ := ofJson_eq_ok_iff.1 h
      exact ⟨es, s, hload, rfl⟩
  | ofReference h =>
      obtain ⟨parsed, loaded, -, hload, rfl⟩ := ofReference_eq_ok_iff.1 h
      exact ⟨_, loaded, hload, rfl⟩

/-- Entries that are looked up are sound, and each has the token asked for. -/
theorem Made.sound_of_find? {s : Store} (h : s.Made) {token : String} {e : Entry}
    (he : s.find? token = some e) : e.token = token ∧ e.Sound := by
  obtain ⟨es, t, hload, hentries⟩ := h.exists_load
  have hfind : t.find? token = some e := by
    rw [find?, ← hentries]
    exact he
  refine ⟨keyed_of_load hload token e hfind, ?_⟩
  rw [find?_load hload] at hfind
  exact (exists_load_iff.1 ⟨t, hload⟩).2 e (List.mem_reverse.1 (List.mem_of_find?_eq_some hfind))

theorem Made.keyed {s : Store} (h : s.Made) : s.Keyed := fun _ _ he => (h.sound_of_find? he).1

theorem Made.sound_of_mem_toList {s : Store} (h : s.Made) {e : Entry} (he : e ∈ s.toList) :
    e.Sound :=
  (h.sound_of_find? (h.keyed.mem_toList_iff.1 he)).2

/-- Only references shadow entries. -/
theorem Made.shadowed_cases {s : Store} (h : s.Made) :
    s.shadowed = [] ∨ ∃ source, Store.ofReference source = .ok s := by
  cases h with
  | load h => exact .inl (shadowed_of_load h)
  | ofJson h =>
      obtain ⟨es, -, hload⟩ := ofJson_eq_ok_iff.1 h
      exact .inl (shadowed_of_load hload)
  | ofReference h => exact .inr ⟨_, h⟩

/-- A shadowed entry is a constant, and a keyword of the table has its token. -/
theorem Made.find?_of_mem_shadowed {s : Store} (h : s.Made) {e : Entry} (he : e ∈ s.shadowed) :
    e.category = .builtinConstant ∧ ∃ k, s.find? e.token = some k ∧ k.category = .keyword := by
  rcases h.shadowed_cases with hnone | ⟨source, hs⟩
  · rw [hnone] at he
    cases he
  · obtain ⟨parsed, loaded, -, hload, rfl⟩ := ofReference_eq_ok_iff.1 hs
    obtain ⟨-, hcategory, k, hk, hkeyword, htoken⟩ := mem_shadowedConstants he
    have hfind : loaded.find? e.token = some k :=
      (find?_load_iff hload (distinctTokens_merge parsed)).2 ⟨hk, htoken⟩
    exact ⟨hcategory, k, hfind, hkeyword⟩

/-- Only the description of a shadowed entry may be unfit. -/
theorem Made.sound_of_mem_shadowed {s : Store} (h : s.Made) {e : Entry} (he : e ∈ s.shadowed)
    (hdescribed : e.Described) : e.Sound := by
  obtain ⟨hcategory, k, hfind, -⟩ := h.find?_of_mem_shadowed he
  obtain ⟨htoken, hsound⟩ := h.sound_of_find? hfind
  refine ⟨?_, ?_, ?_, hdescribed.described, hdescribed.description_le⟩
  · rw [← htoken]
    exact hsound.token_ne
  · rw [← htoken]
    exact hsound.token_solid
  · rw [hcategory]
    decide

theorem Made.sound_or_mem_shadowed {s : Store} (h : s.Made) {e : Entry} (he : s.Shows e) :
    e.Sound ∨ e ∈ s.shadowed := by
  cases he with
  | lookup he => exact .inl (h.sound_of_find? he).2
  | listed he => exact .inl (h.sound_of_mem_toList he)
  | sorted he => exact .inl (h.sound_of_mem_toList (mem_sortEntries.1 he))
  | shadowed he => exact .inr he
  | document he =>
      obtain ⟨hmem, -⟩ := Document.mem_entries_ofEntries.1 he
      exact (List.mem_append.1 hmem).imp_left h.sound_of_mem_toList

/-- What is looked up or listed is sound, and what is looked up has the token asked
for. Everything that a store shows is sound when it is described, and the shadowed
entries are the only ones that may not be. -/
theorem Made.sound_shown_iff {s : Store} (h : s.Made) :
    (∀ token e, s.find? token = some e → e.token = token ∧ e.Sound) ∧
    (∀ e ∈ s.toList, e.Sound) ∧
    (∀ e ∈ s.sorted, e.Sound) ∧
    (∀ e, s.Shows e → (e.Sound ↔ e.Described)) ∧
    ((∀ e, s.Shows e → e.Sound) ↔ ∀ e ∈ s.shadowed, e.Described) := by
  have hshown : ∀ e, s.Shows e → (e.Sound ↔ e.Described) := by
    intro e he
    refine ⟨Entry.Sound.toDescribed, fun hdescribed => ?_⟩
    exact (h.sound_or_mem_shadowed he).elim id fun hmem => h.sound_of_mem_shadowed hmem hdescribed
  refine ⟨fun token e he => h.sound_of_find? he, fun e he => h.sound_of_mem_toList he,
    fun e he => h.sound_of_mem_toList (mem_sortEntries.1 he), hshown, ?_⟩
  constructor
  · intro hsound e he
    exact (hsound e (.shadowed he)).toDescribed
  · intro hdescribed e he
    exact (h.sound_or_mem_shadowed he).elim id fun hmem =>
      h.sound_of_mem_shadowed hmem (hdescribed e hmem)

/-- A constant without a description that is explained again as a keyword. -/
def blankNone : String :=
  "## Builtins\n### Constants\n### \x60None\x60\n**Description**:\n\n" ++
    "## Keywords\n### \x60None\x60\n**Description**: k\n"

/-- The constant is shadowed as it was parsed. -/
theorem exists_ofReference_blankNone :
    ∃ s, ofReference blankNone = .ok s ∧
      s.shadowed = [⟨"None", .builtinConstant, "", none⟩] := by
  have hparse : Reference.parse blankNone =
      .ok [⟨"None", .builtinConstant, "", none⟩, ⟨"None", .keyword, "k", none⟩] := by
    decide +kernel
  have hmerge : merge [⟨"None", .builtinConstant, "", none⟩, ⟨"None", .keyword, "k", none⟩] =
      [⟨"None", .keyword, "k", none⟩] := by
    rw [merge_pair]
    · decide
    · decide
    · rfl
  have hload : load [⟨"None", .keyword, "k", none⟩] =
      .ok ⟨(∅ : Std.HashMap String Entry).insert "None" ⟨"None", .keyword, "k", none⟩, []⟩ := rfl
  refine ⟨_, ofReference_eq_ok_iff.2 ⟨_, _, hparse, by rw [hmerge]; exact hload, rfl⟩, ?_⟩
  rw [hmerge]
  simp [shadowedConstants, firstPerToken, FirstSeen.toList, FirstSeen.keys, FirstSeen.empty,
    FirstSeen.get?, FirstSeen.note]

theorem Made.sound_shown_iff_blankNone :
    ∃ s : Store, s.Made ∧ s.shadowed = [⟨"None", .builtinConstant, "", none⟩] ∧
      (∀ e ∈ s.toList, e.Sound) ∧ ¬∀ e, s.Shows e → e.Sound := by
  obtain ⟨s, hs, hshadowed⟩ := exists_ofReference_blankNone
  obtain ⟨-, hlisted, -, -, hiff⟩ := Made.sound_shown_iff (.ofReference hs)
  refine ⟨s, .ofReference hs, hshadowed, hlisted, ?_⟩
  rw [hiff, hshadowed]
  intro hdescribed
  obtain ⟨c, hc, -⟩ := (hdescribed _ (List.mem_singleton_self _)).described
  cases hc

/-- A store may show an entry without a description. -/
theorem not_sound_of_shows : ¬∀ s : Store, s.Made → ∀ e, s.Shows e → e.Sound := by
  intro h
  obtain ⟨s, hs, hshadowed⟩ := exists_ofReference_blankNone
  have hmem : ⟨"None", .builtinConstant, "", none⟩ ∈ s.shadowed := by simp [hshadowed]
  obtain ⟨c, hc, -⟩ := (h s (.ofReference hs) _ (.shadowed hmem)).described
  cases hc

end Store

end Glossary
