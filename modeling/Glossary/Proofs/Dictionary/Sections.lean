import Glossary.Proofs.Dictionary.Document
import Glossary.Proofs.Dictionary.Precedence

/-!
# Sections of a document

A document puts each entry into the section of its category and sorts every section by the
tokens. Sorting is stable: entries with one token may stand in either order, so they stay as
they were given. Entries of the reserved category belong to no section and are left out.

The entries of a document, section by section, make up the same document again. Each section
finds its own entries in them and no others, and they are sorted already.

## Main results

* `entriesFor_sortEntries` — entries with one token stay in order.
* `Document.select_entries` — a section finds its own entries in the document.
* `Document.ofEntries_entries` — the entries of a document make it up again.
* `Document.ofEntries_sorts` — what a document is made of.
-/

namespace Glossary

/-! ## Stable sorting -/

theorem sortEntries_of_pairwise {es : List Entry} (h : es.Pairwise fun e f => e.before f = true) :
    sortEntries es = es :=
  List.mergeSort_of_pairwise h

theorem sortEntries_sortEntries (es : List Entry) : sortEntries (sortEntries es) = sortEntries es :=
  sortEntries_of_pairwise (sortEntries_pairwise es)

/-- Entries with one token may stand in any order. -/
theorem entriesFor_pairwise (token : String) (es : List Entry) :
    (entriesFor token es).Pairwise fun e f => e.before f = true := by
  refine List.pairwise_of_forall_mem_list ?_
  intro e he f hf
  have hetoken : e.token = token := by simpa using (List.mem_filter.1 he).2
  have hftoken : f.token = token := by simpa using (List.mem_filter.1 hf).2
  rw [Entry.before, hetoken, hftoken, compareTokens_eq_iff.2 rfl]
  rfl

/-- Sorting leaves entries with one token in the order in which they were given. -/
theorem entriesFor_sortEntries (token : String) (es : List Entry) :
    entriesFor token (sortEntries es) = entriesFor token es := by
  have hkept : (entriesFor token es).Sublist (sortEntries es) :=
    List.sublist_mergeSort Entry.before_trans Entry.before_total (entriesFor_pairwise token es)
      List.filter_sublist
  have hsublist : (entriesFor token es).Sublist (entriesFor token (sortEntries es)) := by
    have hown : entriesFor token (entriesFor token es) = entriesFor token es := by
      simp [entriesFor]
    rw [← hown]
    exact hkept.filter _
  have hlength : (entriesFor token (sortEntries es)).length = (entriesFor token es).length :=
    ((sortEntries_perm es).filter _).length_eq
  exact (hsublist.eq_of_length hlength.symm).symm

namespace Document

/-! ## Sections -/

/-- Entries that one section lists are all listed there and in no other. -/
theorem select_sortEntries_select (part other : Section) (es : List Entry) :
    part.select (sortEntries (other.select es)) =
      if other = part then sortEntries (part.select es) else [] := by
  have hsection : ∀ e ∈ sortEntries (other.select es), e.category.section? = some other :=
    fun e he => (Section.mem_select.1 (mem_sortEntries.1 he)).2
  by_cases h : other = part
  · subst h
    rw [if_pos rfl, Section.select, List.filter_eq_self]
    intro e he
    simp [hsection e he]
  · rw [if_neg h, Section.select, List.filter_eq_nil_iff]
    intro e he
    simp [hsection e he, h]

/-- A section finds its own entries among those of the document. -/
theorem select_entries (title : String) (es : List Entry) (part : Section) :
    part.select (ofEntries title es).entries = sortEntries (part.select es) := by
  have happend : ∀ fs gs, part.select (fs ++ gs) = part.select fs ++ part.select gs :=
    fun fs gs => List.filter_append fs gs
  rw [entries_ofEntries]
  simp only [Section.all, List.flatMap_cons, List.flatMap_nil, List.append_nil, happend,
    select_sortEntries_select]
  cases part <;> simp

/-- The entries of a document make it up again. -/
theorem ofEntries_entries (title : String) (es : List Entry) :
    ofEntries title (ofEntries title es).entries = ofEntries title es := by
  rw [ofEntries, ofEntries, Document.mk.injEq]
  refine ⟨rfl, ?_⟩
  apply List.map_congr_left
  intro part _
  have hsorted : sortEntries (part.select (ofEntries title es).entries) =
      sortEntries (part.select es) := by
    rw [select_entries, sortEntries_sortEntries]
  rw [sectionOf, sectionOf, DocumentSection.mk.injEq]
  exact ⟨rfl, rfl, hsorted⟩

/-- Every entry that is not of the reserved category is listed, as often as it is given. -/
theorem entries_perm_filter (title : String) (es : List Entry) :
    (ofEntries title es).entries.Perm (es.filter (·.category ≠ .identifier)) := by
  have hlisted : es.filter (·.category ≠ .identifier) = es.filter (·.category.section?.isSome) := by
    apply List.filter_congr
    intro e _
    rw [Bool.eq_iff_iff, Category.section?_isSome_iff, decide_eq_true_iff]
  rw [hlisted]
  exact entries_perm title es

theorem entryCount_ofEntries (title : String) (es : List Entry) :
    (ofEntries title es).entryCount = (es.filter (·.category ≠ .identifier)).length := by
  rw [entryCount_eq]
  exact (entries_perm_filter title es).length_eq

theorem find?_ofEntries_eq_none_iff (title : String) (es : List Entry) (token : String) :
    (ofEntries title es).find? token = none ↔
      ∀ e ∈ es, e.category ≠ .identifier → e.token ≠ token := by
  simp only [find?, List.find?_eq_none, (entries_perm_filter title es).mem_iff, List.mem_filter,
    decide_eq_true_eq, beq_iff_eq, and_imp]

/-- A document has the three sections in their order. Each lists the entries of its categories,
as often as they are given, in the order of their tokens and those with one token as they were
given. Entries of the reserved category are left out and neither counted nor found, all others
are. And the entries of a document make it up again. -/
theorem ofEntries_sorts (title : String) (es : List Entry) :
    (ofEntries title es).title = title ∧
    (ofEntries title es).sections.map (fun s => (s.part, s.title)) =
      [(.keywords, "Keywords"), (.builtins, "Builtins"),
        (.operatorsAndDelimiters, "Operators & Delimiters")] ∧
    (∀ s ∈ (ofEntries title es).sections,
      s.entries.Perm (es.filter (·.category.section? == some s.part)) ∧
      (s.entries.Pairwise fun e f => (compareTokens e.token f.token).isLE = true) ∧
      ∀ token, s.entries.filter (·.token == token) =
        (es.filter (·.category.section? == some s.part)).filter (·.token == token)) ∧
    (ofEntries title es).entries.Perm (es.filter (·.category ≠ .identifier)) ∧
    (ofEntries title es).entryCount = (es.filter (·.category ≠ .identifier)).length ∧
    (∀ token, (ofEntries title es).find? token = none ↔
      ∀ e ∈ es, e.category ≠ .identifier → e.token ≠ token) ∧
    ofEntries title (ofEntries title es).entries = ofEntries title es := by
  refine ⟨rfl, rfl, ?_, entries_perm_filter title es, entryCount_ofEntries title es,
    find?_ofEntries_eq_none_iff title es, ofEntries_entries title es⟩
  intro s hs
  obtain ⟨part, -, rfl⟩ := List.mem_map.1 hs
  exact ⟨sortEntries_perm _, sortEntries_pairwise _,
    fun token => entriesFor_sortEntries token (part.select es)⟩

/-- A builtin that is explained twice, a keyword with its token, and an entry of the reserved
category. -/
def scattered : List Entry :=
  [⟨"b", .builtinType, "first", none⟩, ⟨"x", .identifier, "reserved", none⟩,
    ⟨"a", .builtinFunction, "between", none⟩, ⟨"b", .keyword, "keyword", none⟩,
    ⟨"b", .builtinConstant, "second", none⟩]

theorem ofEntries_sorts_scattered :
    (∃ s ∈ (ofEntries "Terms" scattered).sections, s.part = .builtins ∧
      s.entries.filter (·.token == "b") =
        [⟨"b", .builtinType, "first", none⟩, ⟨"b", .builtinConstant, "second", none⟩]) ∧
    (ofEntries "Terms" scattered).entryCount = 4 ∧
    (ofEntries "Terms" scattered).find? "x" = none ∧
    (ofEntries "Terms" scattered).find? "b" ≠ none := by
  obtain ⟨-, -, hsections, -, hcount, hfind, -⟩ := ofEntries_sorts "Terms" scattered
  have hs : sectionOf scattered .builtins ∈ (ofEntries "Terms" scattered).sections :=
    List.mem_map.2 ⟨.builtins, by decide, rfl⟩
  obtain ⟨-, -, hstable⟩ := hsections _ hs
  refine ⟨⟨_, hs, rfl, (hstable "b").trans (by decide)⟩, hcount.trans (by decide), ?_, ?_⟩
  · rw [hfind]
    decide
  · rw [Ne, hfind]
    decide

end Document

end Glossary
