import Glossary.Analysis
import Glossary.Proofs.Dictionary.Agreement
import Glossary.Proofs.Json.Reading
import Glossary.Proofs.Reference.Reading

/-!
# Definitions as data

The definitions of a reference are written as JSON and can be loaded from there.
An entry is read back as it was written unless its example is blank, and an entry
of a reference has no such example, nor has one that entries were merged into.

The data are sorted and the store of the reference is loaded from entries in the
order in which they were merged. Merged entries have tokens of their own, so both
are loaded or neither is, and the two stores answer alike.

## Main results

* `Entry.readList?_writeList` — written entries are read back.
* `Store.exists_load_iff_of_perm`, `Store.find?_eq_of_perm` — loading in another order.
* `Store.ofJson_definitions_iff` — the definitions stand for the reference.
-/

namespace Glossary

open Json (Value)

/-! ## Entries as data -/

namespace Entry

theorem plain_toJson (e : Entry) : e.toJson.Plain := by
  refine .object ?_
  intro m hm
  rcases List.mem_append.1 hm with hm | hm
  · simp only [List.mem_cons, List.not_mem_nil, or_false] at hm
    rcases hm with rfl | rfl | rfl
    · exact .string _
    · exact .string _
    · exact .string _
  · obtain ⟨text, -, rfl⟩ := Option.map_eq_some_iff.1 (Option.mem_toList.1 hm)
    exact .string _

theorem shownExample_of_shown {e : Entry} (h : e.Shown) :
    shownExample e.example? = e.example? := by
  cases hexample : e.example? with
  | none => rfl
  | some text => simp [shownExample, h text hexample]

/-- An entry is read back unless its example is blank. -/
theorem ofJson?_toJson {e : Entry} (h : e.Shown) : ofJson? e.toJson = some e := by
  have hshown := shownExample_of_shown h
  obtain ⟨token, category, description, example?⟩ := e
  have hcategory : Category.ofJson? category.toJson = some category :=
    Category.withName?_name category
  cases example? <;>
    simp [ofJson?, toJson, Value.required?, Value.optional?, Value.valuesOf, ofFields?,
      Value.string?, exampleOfJson?, hcategory, make, hshown]

theorem listOfJson?_map_toJson {es : List Entry} (h : ∀ e ∈ es, e.Shown) :
    listOfJson? (.array (es.map toJson)) = some es := by
  rw [listOfJson?]
  induction es with
  | nil => rfl
  | cons e es ih =>
      have he : ofJson? e.toJson = some e := ofJson?_toJson (h e (by simp))
      rw [List.map_cons, List.mapM_cons, he, ih fun f hf => h f (by simp [hf])]
      rfl

/-- Written entries are read back. -/
theorem readList?_writeList {es : List Entry} (h : ∀ e ∈ es, e.Shown) :
    readList? (writeList es) = some es := by
  have hplain : (Value.array (es.map toJson)).Plain := by
    refine .array ?_
    intro v hv
    obtain ⟨e, -, rfl⟩ := List.mem_map.1 hv
    exact plain_toJson e
  have hread : Value.read? (writeList es) = some (.array (es.map toJson)) :=
    Value.read?_render hplain (.pretty 0)
  rw [readList?, hread, Option.bind_some, listOfJson?_map_toJson h]

/-- What is kept of two examples that are not blank is not blank. -/
theorem Shown.absorb {e later : Entry} (he : e.Shown) (hlater : later.Shown) :
    (e.absorb later).Shown := by
  unfold Entry.absorb
  split
  · exact hlater
  · split
    · intro text htext
      simp only at htext
      split at htext
      · exact hlater text htext
      · exact he text htext
    · exact he

end Entry

/-! ## Loading in another order -/

namespace Store

theorem exists_load_iff_of_perm {es fs : List Entry} (hp : es.Perm fs) :
    (∃ s, load es = .ok s) ↔ ∃ t, load fs = .ok t := by
  simp only [exists_load_iff, hp.length_eq, hp.mem_iff]

variable {es fs : List Entry} {s t : Store}

/-- Two stores with the same entries, one for each token, answer alike. -/
theorem find?_eq_of_perm (hs : load es = .ok s) (ht : load fs = .ok t) (hd : DistinctTokens es)
    (hp : es.Perm fs) (token : String) : s.find? token = t.find? token := by
  apply Option.ext
  intro e
  rw [find?_load_iff hs hd, find?_load_iff ht (hd.perm hp), hp.mem_iff]

theorem size_load (hs : load es = .ok s) (hd : DistinctTokens es) : s.size = es.length := by
  rw [← (toList_perm_of_load hs hd).length_eq, toList, List.length_map, size]
  exact Std.HashMap.length_toList.symm

/-- An analysis depends on what the store answers only. -/
theorem analyze_congr (h : ∀ token, s.find? token = t.find? token) (text : String) :
    s.analyze text = t.analyze text := by
  have hmatch : Match.ofToken s = Match.ofToken t := by
    funext token
    rw [Match.ofToken, Match.ofToken, classify, classify, h]
  rw [analyze, analyze, hmatch]

/-! ## Definitions -/

/-- Written entries are loaded like the entries themselves. -/
theorem ofJson_writeList {es : List Entry} (h : ∀ e ∈ es, e.Shown) :
    ofJson (Entry.writeList es) = load es := by
  rw [ofJson, Entry.readList?_writeList h]

end Store

namespace Generated

theorem exists_of_ofReference_eq_ok {source title : String} {g : Generated}
    (h : ofReference source title = .ok g) :
    ∃ parsed, Reference.parse source = .ok parsed ∧ g = ofEntries title parsed := by
  rw [ofReference] at h
  cases hparse : Reference.parse source with
  | error e =>
      rw [hparse] at h
      cases h
  | ok parsed =>
      rw [hparse] at h
      exact ⟨parsed, rfl, (Except.ok.inj h).symm⟩

theorem shown_definitions {source title : String} {parsed : List Entry}
    (h : Reference.parse source = .ok parsed) :
    ∀ e ∈ (ofEntries title parsed).definitions, e.Shown := by
  intro e he
  exact forall_mem_merge (fun _ _ => Entry.Shown.absorb) (Reference.shown_of_parse h) e
    (mem_sortEntries.1 he)

end Generated

namespace Store

/-- The definitions of a reference can be loaded from their JSON exactly when the
reference can be loaded, and then the two stores have one size, answer alike and
analyze every text alike. -/
theorem ofJson_definitions_iff {source title : String} {g : Generated}
    (h : Generated.ofReference source title = .ok g) :
    ((∃ s, ofJson (Entry.writeList g.definitions) = .ok s) ↔ ∃ t, ofReference source = .ok t) ∧
    ∀ s t, ofJson (Entry.writeList g.definitions) = .ok s → ofReference source = .ok t →
      s.size = t.size ∧ (∀ token, s.find? token = t.find? token) ∧
      ∀ text, s.analyze text = t.analyze text := by
  obtain ⟨parsed, hparse, rfl⟩ := Generated.exists_of_ofReference_eq_ok h
  rw [ofJson_writeList (Generated.shown_definitions hparse)]
  have hperm : (Generated.ofEntries title parsed).definitions.Perm (merge parsed) :=
    sortEntries_perm _
  have hmerged : DistinctTokens (merge parsed) := distinctTokens_merge parsed
  have hdistinct := hmerged.perm hperm.symm
  refine ⟨?_, ?_⟩
  · rw [exists_load_iff_of_perm hperm]
    simp [ofReference_eq_ok_iff, hparse]
  · intro s t hs ht
    obtain ⟨parsed', loaded, hparse', hload, rfl⟩ := ofReference_eq_ok_iff.1 ht
    obtain rfl : parsed = parsed' := Except.ok.inj (hparse.symm.trans hparse')
    have hsize : s.size = loaded.size := by
      rw [size_load hs hdistinct, size_load hload hmerged, hperm.length_eq]
    have hfind : ∀ token, s.find? token = loaded.find? token :=
      find?_eq_of_perm hs hload hdistinct hperm
    exact ⟨hsize, hfind, analyze_congr hfind⟩

/-- A keyword that JSON writes with escapes. -/
def escapedKeyword : String :=
  "## Keywords\n### \x60\"\\\x60\n**Description**: \"é\"\t\x01.\n" ++
    "**Example**:\n\x60\x60\x60\n\\n\n\x60\x60\x60\n"

theorem ofJson_definitions_iff_escapedKeyword :
    ∃ g s t, Generated.ofReference escapedKeyword "Keywords" = .ok g ∧
      ofJson (Entry.writeList g.definitions) = .ok s ∧ ofReference escapedKeyword = .ok t ∧
      s.size = t.size ∧ s.find? "\"\\" = t.find? "\"\\" ∧
      s.analyze "\"\\" = t.analyze "\"\\" := by
  have hparse : Reference.parse escapedKeyword =
      .ok [⟨"\"\\", .keyword, "\"é\"\t\x01.", some "\\n"⟩] := by
    decide +kernel
  have hmerge : merge [⟨"\"\\", .keyword, "\"é\"\t\x01.", some "\\n"⟩] =
      [⟨"\"\\", .keyword, "\"é\"\t\x01.", some "\\n"⟩] := by
    simp [merge, mergeEntry, FirstSeen.toList, FirstSeen.keys, FirstSeen.empty, FirstSeen.get?,
      FirstSeen.note]
  have hg : Generated.ofReference escapedKeyword "Keywords" = .ok _ :=
    Generated.ofReference_eq_ok hparse
  obtain ⟨loaded, hloaded⟩ :
      ∃ s, load [⟨"\"\\", .keyword, "\"é\"\t\x01.", some "\\n"⟩] = .ok s := ⟨_, rfl⟩
  have ht := ofReference_eq_ok_iff.2 ⟨_, loaded, hparse, by rw [hmerge]; exact hloaded, rfl⟩
  obtain ⟨hiff, hsame⟩ := ofJson_definitions_iff hg
  obtain ⟨s, hs⟩ := hiff.2 ⟨_, ht⟩
  obtain ⟨hsize, hfind, hanalyze⟩ := hsame s _ hs ht
  exact ⟨_, s, _, hg, hs, ht, hsize, hfind _, hanalyze _⟩

end Store

end Glossary
