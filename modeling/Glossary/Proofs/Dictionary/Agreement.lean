import Glossary.Generated
import Glossary.Proofs.Dictionary.Load
import Glossary.Proofs.Dictionary.Merge

/-!
# Data and store of one reference

A reference is used in two ways. It is turned into data, which sorts the merged
entries first, or it is loaded into a store, whose table yields its entries in
no particular order. Both show the same definitions and the same document.

The definitions agree because merged entries have tokens of their own, so that
there is only one way to sort them. The documents agree because the tokens are
distinct in each section too: a shadowed constant stands among the builtins,
and the entry that won its token is a keyword.

## Main results

* `distinctTokens_section` — no section lists a token twice.
* `Document.ofEntries_eq_of_perm` — the order of entries is no matter then.
* `Store.generated_of_ofReference` — data and store agree.
-/

namespace Glossary

/-! ## Sections -/

/-- The entries that a section lists. -/
def Section.select (part : Section) (es : List Entry) : List Entry :=
  es.filter (·.category.section? == some part)

theorem Section.mem_select {part : Section} {es : List Entry} {e : Entry} :
    e ∈ part.select es ↔ e ∈ es ∧ e.category.section? = some part := by
  simp [select]

theorem DistinctTokens.sublist {es fs : List Entry} (h : DistinctTokens fs)
    (hs : es.Sublist fs) : DistinctTokens es :=
  List.Nodup.sublist (hs.map _) h

theorem DistinctTokens.append {es fs : List Entry} (he : DistinctTokens es)
    (hf : DistinctTokens fs) (h : ∀ e ∈ es, ∀ f ∈ fs, e.token ≠ f.token) :
    DistinctTokens (es ++ fs) := by
  rw [DistinctTokens, List.map_append, List.nodup_append]
  refine ⟨he, hf, ?_⟩
  intro s hs t ht
  obtain ⟨e, hemem, rfl⟩ := List.mem_map.1 hs
  obtain ⟨f, hfmem, rfl⟩ := List.mem_map.1 ht
  exact h e hemem f hfmem

/-- Constants beside the keywords that shadow them do not repeat a token in a
section: the keyword is not among the builtins. -/
theorem distinctTokens_select_append {es shadowed : List Entry} (h : DistinctTokens es)
    (hshadowed : DistinctTokens shadowed)
    (hkeyword : ∀ f ∈ shadowed, f.category = .builtinConstant ∧
      ∃ k ∈ es, k.category = .keyword ∧ k.token = f.token) (part : Section) :
    DistinctTokens (part.select (es ++ shadowed)) := by
  rw [Section.select, List.filter_append]
  refine DistinctTokens.append (h.sublist List.filter_sublist)
    (hshadowed.sublist List.filter_sublist) ?_
  intro e he f hf htoken
  obtain ⟨hemem, hesection⟩ := Section.mem_select.1 he
  obtain ⟨hfmem, hfsection⟩ := Section.mem_select.1 hf
  obtain ⟨hfcategory, k, hk, hkcategory, hktoken⟩ := hkeyword f hfmem
  -- the keyword is the only one of the entries with its token
  obtain rfl : e = k := h.eq_of_token_eq hemem hk (htoken.trans hktoken.symm)
  rw [hkcategory, ← hfsection, hfcategory] at hesection
  cases hesection

/-- No section lists a token twice after merging. -/
theorem distinctTokens_section {parsed merged : List Entry} (h : DistinctTokens merged)
    (part : Section) :
    DistinctTokens (part.select (merged ++ shadowedConstants parsed merged)) :=
  distinctTokens_select_append h (distinctTokens_shadowedConstants parsed merged)
    (fun _ hf => (mem_shadowedConstants hf).2) part

/-! ## Documents -/

/-- Entries whose tokens are distinct in each section make up one document,
whatever order they come in. -/
theorem Document.ofEntries_eq_of_perm (title : String) {es fs : List Entry}
    (h : ∀ part : Section, DistinctTokens (part.select es)) (hp : es.Perm fs) :
    Document.ofEntries title es = Document.ofEntries title fs := by
  rw [ofEntries, ofEntries, Document.mk.injEq]
  refine ⟨rfl, ?_⟩
  apply List.map_congr_left
  intro part _
  rw [sectionOf, sectionOf, DocumentSection.mk.injEq]
  exact ⟨rfl, rfl, sortEntries_eq_of_perm (h part) (hp.filter _)⟩

/-! ## References -/

namespace Store

/-- How a reference is loaded: parsed, merged and taken in. -/
theorem ofReference_eq_ok_iff {source : String} {s : Store} :
    ofReference source = .ok s ↔ ∃ parsed loaded, Reference.parse source = .ok parsed ∧
      load (merge parsed) = .ok loaded ∧
      s = { loaded with shadowed := shadowedConstants parsed (merge parsed) } := by
  rw [ofReference]
  cases hparse : Reference.parse source with
  | error e => simp [Except.mapError, Bind.bind, Except.bind]
  | ok parsed =>
      cases hload : load (merge parsed) with
      | error e => simp [Except.mapError, Bind.bind, Except.bind, hload]
      | ok loaded =>
          simp only [Except.mapError, Bind.bind, Except.bind, hload, pure, Except.pure,
            Except.ok.injEq]
          constructor
          · rintro rfl
            exact ⟨parsed, loaded, rfl, hload, rfl⟩
          · rintro ⟨parsed, other, rfl, hother, rfl⟩
            rw [hload, Except.ok.injEq] at hother
            rw [hother]

end Store

namespace Generated

theorem ofReference_eq_ok {source title : String} {parsed : List Entry}
    (h : Reference.parse source = .ok parsed) :
    ofReference source title = .ok (ofEntries title parsed) := by
  rw [ofReference, h]
  rfl

theorem ofReference_eq_error_iff {source title : String} {e : ReferenceError} :
    ofReference source title = .error e ↔ Reference.parse source = .error e := by
  rw [ofReference]
  cases Reference.parse source with
  | error e => simp [Except.map]
  | ok parsed => simp [Except.map]

end Generated

namespace Store

/-- When a store is loaded from a reference, the data of the reference are its
sorted entries, its shadowed entries and its document, in whatever order its
table yields the entries. Only a reference that cannot be parsed has no data,
and then it is not loaded for the same reason. -/
theorem generated_of_ofReference (source title : String) :
    (∀ s, ofReference source = .ok s → ∃ g, Generated.ofReference source title = .ok g ∧
      g.definitions = s.sorted ∧
      (g.definitions.Pairwise fun e f => compareTokens e.token f.token = .lt) ∧
      g.shadowed = s.shadowed ∧
      g.document = s.document title ∧
      ∀ es : List Entry, es.Perm s.toList →
        g.definitions = sortEntries es ∧
        g.document = Document.ofEntries title (es ++ s.shadowed)) ∧
    (∀ e, Generated.ofReference source title = .error e ↔
      Reference.parse source = .error e) ∧
    (∀ e, Generated.ofReference source title = .error e →
      ofReference source = .error (.reference e)) := by
  refine ⟨?_, fun e => Generated.ofReference_eq_error_iff, ?_⟩
  · intro s hs
    obtain ⟨parsed, loaded, hparse, hload, rfl⟩ := ofReference_eq_ok_iff.1 hs
    have hdistinct := distinctTokens_merge parsed
    have hstore : loaded.toList.Perm (merge parsed) := toList_perm_of_load hload hdistinct
    have hsorted : (sortEntries (merge parsed)).Perm (merge parsed) := sortEntries_perm _
    have hshadowed : shadowedConstants parsed (sortEntries (merge parsed)) =
        shadowedConstants parsed (merge parsed) := shadowedConstants_eq_of_perm parsed hsorted
    have hany : ∀ es : List Entry, es.Perm loaded.toList →
        sortEntries (merge parsed) = sortEntries es ∧
        Document.ofEntries title (sortEntries (merge parsed) ++
            shadowedConstants parsed (sortEntries (merge parsed))) =
          Document.ofEntries title (es ++ shadowedConstants parsed (merge parsed)) := by
      intro es hes
      have hperm : (merge parsed).Perm es := hstore.symm.trans hes.symm
      refine ⟨sortEntries_eq_of_perm hdistinct hperm, ?_⟩
      rw [hshadowed]
      apply Document.ofEntries_eq_of_perm
      · intro part
        rw [← hshadowed]
        exact distinctTokens_section (hdistinct.perm hsorted.symm) part
      · exact (hsorted.trans hperm).append_right _
    obtain ⟨hdefinitions, hdocument⟩ := hany loaded.toList (.refl _)
    exact ⟨_, Generated.ofReference_eq_ok hparse, hdefinitions,
      sortEntries_ascending hdistinct, hshadowed, hdocument, hany⟩
  · intro e he
    rw [Generated.ofReference_eq_error_iff] at he
    rw [ofReference, he]
    rfl

/-- A constant that is explained again as a keyword. -/
def repeatedNone : String :=
  "## Builtins\n### Constants\n### None\n**Description**: b\n" ++
    "## Keywords\n### None\n**Description**: k\n"

/-- The keyword is looked up, and both entries are shown. -/
theorem generated_of_ofReference_none :
    ∃ s g,
      ofReference repeatedNone = .ok s ∧ Generated.ofReference repeatedNone "None" = .ok g ∧
      s.shadowed = [⟨"None", .builtinConstant, "b", none⟩] ∧
      g.definitions = s.sorted ∧ g.shadowed = s.shadowed ∧ g.document = s.document "None" := by
  have hparse : Reference.parse repeatedNone =
      .ok [⟨"None", .builtinConstant, "b", none⟩, ⟨"None", .keyword, "k", none⟩] := by
    decide +kernel
  have hmerge : merge [⟨"None", .builtinConstant, "b", none⟩, ⟨"None", .keyword, "k", none⟩] =
      [⟨"None", .keyword, "k", none⟩] := by
    simp [merge, mergeEntry, FirstSeen.toList, FirstSeen.keys, FirstSeen.empty,
      FirstSeen.get?, FirstSeen.note, Entry.absorb, Category.kind, Kind.rank]
  have hload : load [⟨"None", .keyword, "k", none⟩] =
      .ok ⟨(∅ : Std.HashMap String Entry).insert "None" ⟨"None", .keyword, "k", none⟩, []⟩ := rfl
  have hs := ofReference_eq_ok_iff.2 ⟨_, _, hparse, by rw [hmerge]; exact hload, rfl⟩
  obtain ⟨g, hg, hdefinitions, -, hshadowed, hdocument, -⟩ :=
    (generated_of_ofReference _ "None").1 _ hs
  refine ⟨_, g, hs, hg, ?_, hdefinitions, hshadowed, hdocument⟩
  rw [hmerge]
  simp [shadowedConstants, firstPerToken, FirstSeen.toList, FirstSeen.keys, FirstSeen.empty,
    FirstSeen.get?, FirstSeen.note]

end Store

end Glossary
