import Glossary.Proofs.Dictionary.Soundness

/-!
# Documents and lookups

A document lists the entries that are looked up and, beside them, the constants
that a keyword shadows. Asked for a token, it gives the first entry in the order
of its sections, which is not the order in which kinds win when entries are
merged. The two agree all the same: the keyword that shadows a constant stands in
the first section, and no other token is listed twice.

## Main results

* `Document.entries_perm` — a document lists every entry that has a section, once.
* `Document.category_of_find?` — keywords come first.
* `Store.Made.find?_document` — a document gives what a lookup gives.
* `Store.Made.document_agrees` — and it lists nothing else, in order.
-/

namespace Glossary

/-! ## What a document lists -/

namespace Document

theorem entries_ofEntries (title : String) (es : List Entry) :
    (ofEntries title es).entries =
      Section.all.flatMap fun part => sortEntries (part.select es) := by
  rw [entries, ofEntries, List.flatMap_map]
  rfl

/-- Every entry that has a section is listed, as often as it is given. -/
theorem entries_perm (title : String) (es : List Entry) :
    (ofEntries title es).entries.Perm (es.filter (·.category.section?.isSome)) := by
  rw [entries_ofEntries]
  refine List.perm_iff_count.2 fun e => ?_
  have hcount : ∀ p : Entry → Bool,
      (es.filter p).count e = if p e = true then es.count e else 0 := by
    intro p
    split
    · next h => exact List.count_filter h
    · next h => exact List.count_eq_zero.2 fun hmem => h (List.mem_filter.1 hmem).2
  have hsorted : ∀ part : Section, (sortEntries (part.select es)).count e =
      if (e.category.section? == some part) = true then es.count e else 0 :=
    fun part => ((sortEntries_perm _).count_eq e).trans (hcount _)
  -- an entry counts in the section of its category and in no other
  rw [hcount]
  simp only [Section.all, List.flatMap_cons, List.flatMap_nil, List.count_append, List.count_nil,
    hsorted]
  cases e.category.section? with
  | none => simp
  | some part => cases part <;> simp

/-- Keywords come first: where a keyword has the token, none but keywords are found. -/
theorem category_of_find? {title token : String} {es : List Entry} {f k : Entry}
    (h : (ofEntries title es).find? token = some f) (hk : k ∈ es) (hkeyword : k.category = .keyword)
    (htoken : k.token = token) : f.category = .keyword := by
  have hfirst : ((sortEntries (Section.keywords.select es)).find? (·.token == token)).isSome =
      true := by
    rw [List.find?_isSome]
    refine ⟨k, mem_sortEntries.2 (Section.mem_select.2 ⟨hk, ?_⟩), by simp [htoken]⟩
    rw [hkeyword]
    rfl
  obtain ⟨g, hg⟩ := Option.isSome_iff_exists.1 hfirst
  rw [find?, entries_ofEntries, Section.all, List.flatMap_cons, List.find?_append, hg,
    Option.some_or, Option.some.injEq] at h
  subst h
  have hmem := mem_sortEntries.1 (List.mem_of_find?_eq_some hg)
  exact Category.eq_keyword_of_section? (Section.mem_select.1 hmem).2

end Document

/-! ## What a store's document lists -/

namespace Store

variable {s : Store}

theorem length_toList (s : Store) : s.toList.length = s.size := by
  rw [toList, List.length_map, size]
  exact Std.HashMap.length_toList

theorem Made.distinctTokens_shadowed (h : s.Made) : DistinctTokens s.shadowed := by
  rcases h.shadowed_cases with hnone | ⟨source, hs⟩
  · rw [hnone]
    exact .nil
  · obtain ⟨parsed, loaded, -, -, rfl⟩ := ofReference_eq_ok_iff.1 hs
    exact distinctTokens_shadowedConstants parsed (merge parsed)

/-- The keyword that shadows an entry is listed with it. -/
theorem Made.exists_keyword (h : s.Made) {e : Entry} (he : e ∈ s.shadowed) :
    e.category = .builtinConstant ∧
      ∃ k ∈ s.toList, k.category = .keyword ∧ k.token = e.token := by
  obtain ⟨hcategory, k, hfind, hkeyword⟩ := h.find?_of_mem_shadowed he
  have htoken := (h.sound_of_find? hfind).1
  refine ⟨hcategory, k, h.keyed.mem_toList_iff.2 ?_, hkeyword, htoken⟩
  rw [htoken]
  exact hfind

/-- No section lists a token twice, in whatever order the table yields its entries. -/
theorem Made.distinctTokens_select (h : s.Made) (part : Section) :
    DistinctTokens (part.select (s.toList ++ s.shadowed)) :=
  distinctTokens_select_append h.keyed.distinctTokens_toList h.distinctTokens_shadowed
    (fun _ he => h.exists_keyword he) part

/-- Every entry of a store has a section. -/
theorem Made.section?_isSome (h : s.Made) {e : Entry} (he : e ∈ s.toList ++ s.shadowed) :
    e.category.section?.isSome = true := by
  rcases List.mem_append.1 he with he | he
  · exact Category.section?_isSome_iff.2 (h.sound_of_mem_toList he).category_ne
  · rw [(h.find?_of_mem_shadowed he).1]
    rfl

/-- A document gives what a lookup gives. -/
theorem Made.find?_document (h : s.Made) (title token : String) :
    (s.document title).find? token = s.find? token := by
  cases hdocument : (s.document title).find? token with
  | none =>
      cases hfind : s.find? token with
      | none => rfl
      | some k =>
          obtain ⟨htoken, -⟩ := h.sound_of_find? hfind
          have hk : k ∈ s.toList ++ s.shadowed := by
            refine List.mem_append_left _ (h.keyed.mem_toList_iff.2 ?_)
            rw [htoken]
            exact hfind
          have hlisted : k ∈ (s.document title).entries :=
            Document.mem_entries_ofEntries.2
              ⟨hk, Option.isSome_iff_exists.1 (h.section?_isSome hk)⟩
          have hnone := List.find?_eq_none.1 hdocument k hlisted
          simp [htoken] at hnone
  | some f =>
      have htoken : f.token = token := by simpa using List.find?_some hdocument
      obtain ⟨hmem, -⟩ := Document.mem_entries_ofEntries.1 (List.mem_of_find?_eq_some hdocument)
      rcases List.mem_append.1 hmem with hmem | hmem
      · rw [← htoken]
        exact (h.keyed.mem_toList_iff.1 hmem).symm
      · -- a shadowed entry is not found, since its keyword stands before it
        obtain ⟨hcategory, k, hk, hkeyword, hktoken⟩ := h.exists_keyword hmem
        have hf := Document.category_of_find? hdocument (List.mem_append_left _ hk) hkeyword
          (hktoken.trans htoken)
        rw [hcategory] at hf
        cases hf

theorem Made.entryCount_document (h : s.Made) (title : String) :
    (s.document title).entryCount = s.size + s.shadowed.length := by
  have hall : (s.toList ++ s.shadowed).filter (·.category.section?.isSome) =
      s.toList ++ s.shadowed :=
    List.filter_eq_self.2 fun _ he => h.section?_isSome he
  rw [Document.entryCount_eq, document, (Document.entries_perm title _).length_eq, hall,
    List.length_append, length_toList]

theorem Made.sections_ascending (h : s.Made) {title : String} {d : DocumentSection}
    (hd : d ∈ (s.document title).sections) :
    d.entries.Pairwise fun e f => compareTokens e.token f.token = .lt := by
  obtain ⟨part, -, rfl⟩ := List.mem_map.1 hd
  exact sortEntries_ascending (h.distinctTokens_select part)

/-- The document of a store gives for every token what a lookup gives, it lists the
entries that are looked up and the shadowed ones, and the tokens of each section
ascend, so that none is listed twice there. The order in which the table yields its
entries is no matter. -/
theorem Made.document_agrees (h : s.Made) (title : String) :
    (∀ token, (s.document title).find? token = s.find? token) ∧
    (s.document title).entryCount = s.size + s.shadowed.length ∧
    (∀ d ∈ (s.document title).sections,
      (d.entries.Pairwise fun e f => compareTokens e.token f.token = .lt) ∧
      (d.entries.map (·.token)).Nodup) ∧
    ∀ es : List Entry, es.Perm s.toList →
      Document.ofEntries title (es ++ s.shadowed) = s.document title := by
  refine ⟨h.find?_document title, h.entryCount_document title, ?_, ?_⟩
  · intro d hd
    have hascending := h.sections_ascending hd
    refine ⟨hascending, List.pairwise_map.2 (hascending.imp ?_)⟩
    intro e f hlt htoken
    rw [compareTokens_eq_iff.2 htoken] at hlt
    cases hlt
  · intro es hes
    exact (Document.ofEntries_eq_of_perm title h.distinctTokens_select
      (hes.symm.append_right _)).symm

/-- The keyword is found although the constant that it shadows is listed as well. -/
theorem Made.document_agrees_blankNone :
    ∃ s k, Store.ofReference blankNone = .ok s ∧
      s.shadowed = [⟨"None", .builtinConstant, "", none⟩] ∧ k.category = .keyword ∧
      (s.document "Terms").find? "None" = some k ∧
      (s.document "Terms").entryCount = s.size + 1 := by
  obtain ⟨s, hs, hshadowed⟩ := exists_ofReference_blankNone
  have hmade : s.Made := .ofReference hs
  obtain ⟨hfind, hcount, -, -⟩ := hmade.document_agrees "Terms"
  have hmem : ⟨"None", .builtinConstant, "", none⟩ ∈ s.shadowed := by simp [hshadowed]
  obtain ⟨-, k, hk, hkeyword⟩ := hmade.find?_of_mem_shadowed hmem
  rw [hshadowed] at hcount
  exact ⟨s, k, hs, hshadowed, hkeyword, (hfind "None").trans hk, hcount⟩

end Store

end Glossary
