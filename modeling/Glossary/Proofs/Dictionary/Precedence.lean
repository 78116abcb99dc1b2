import Glossary.Proofs.Dictionary.Merge
import Glossary.Proofs.Distinct
import Mathlib.Data.List.MinMax

/-!
# Which entries decide about a merged one

Merging goes through the entries once and keeps one entry for each token, which
later entries replace, complete or leave alone. What is left can be said without
the order of these changes. Of the entries for a token only those of the highest
rank count, wherever they stand; they *lead*. The first of them gives the
category, the first of those with the longest description gives the description,
and the first of those with the longest example gives the example.

The induction is on the entries from the last one on, because that is the one
taken in last. It carries what the table holds for every token, so one step is a
comparison of the new entry with the leading entries before it: it outranks them,
joins them, or is outranked.

## Main results

* `topRanked_concat_of_lt`, `topRanked_concat_of_eq`, `topRanked_concat_of_gt` —
  what one more entry does to the leading ones.
* `Summarizes.absorb` — absorbing an entry keeps the summary.
* `keys_mergeTable` — the tokens in order of first appearance.
* `merge_summarizes` — what merging leaves.
-/

namespace Glossary

/-! ## The longer of two -/

/-- The longer of two, and the first in a tie. -/
def longer {α : Type} (size : α → Nat) (a b : α) : α := if size a < size b then b else a

theorem longer_cases {α : Type} (size : α → Nat) (a b : α) :
    longer size a b = a ∨ longer size a b = b := by
  unfold longer
  split
  · exact .inr rfl
  · exact .inl rfl

/-- Keeping the longer of two leads to the first of the longest. -/
theorem map_argmax_concat {α β : Type} (size : β → Nat) (field : α → β) {l : List α} {b : β}
    (h : (l.argmax fun a => size (field a)).map field = some b) (a : α) :
    ((l ++ [a]).argmax fun a => size (field a)).map field =
      some (longer size b (field a)) := by
  obtain ⟨c, hc, hfield⟩ := Option.map_eq_some_iff.1 h
  rw [List.argmax_concat, hc, ← hfield]
  by_cases hlt : size (field c) < size (field a)
  · simp [longer, hlt]
  · simp [longer, hlt]

/-! ## Entries that absorb others -/

/-- Which entry wins among those for one token: the one with the larger number. -/
def Entry.rank (e : Entry) : Nat := e.category.kind.rank

namespace Entry

variable {e f : Entry}

theorem absorb_of_lt (h : e.rank < f.rank) : e.absorb f = f := by
  have hkind : e.category.kind.rank < f.category.kind.rank := h
  rw [absorb, if_pos hkind]

theorem absorb_of_gt (h : f.rank < e.rank) : e.absorb f = e := by
  have hkind : f.category.kind.rank < e.category.kind.rank := h
  rw [absorb, if_neg (by omega), if_neg (by omega)]

/-- Entries of one rank complete each other. -/
theorem absorb_of_eq (h : e.rank = f.rank) :
    e.absorb f =
      { e with
        description := longer String.utf8ByteSize e.description f.description
        example? := longer (fun text => (text.map String.utf8ByteSize).getD 0) e.example?
          f.example? } := by
  have hkind : e.category.kind.rank = f.category.kind.rank := h
  rw [absorb, if_neg (by omega), if_pos hkind]
  rfl

/-- The higher rank stays. -/
theorem rank_absorb (e f : Entry) : (e.absorb f).rank = max e.rank f.rank := by
  rcases Nat.lt_trichotomy e.rank f.rank with hlt | heq | hgt
  · rw [absorb_of_lt hlt]
    omega
  · rw [absorb_of_eq heq]
    show e.rank = max e.rank f.rank
    omega
  · rw [absorb_of_gt hgt]
    omega

end Entry

/-! ## Entries that lead -/

/-- The entries that none of the others outranks. -/
def topRanked (es : List Entry) : List Entry := es.filter fun e => es.all (·.rank ≤ e.rank)

/-- The entries for a token. -/
def entriesFor (token : String) (es : List Entry) : List Entry := es.filter (·.token == token)

/-- The entries that decide about a token. -/
def leading (token : String) (es : List Entry) : List Entry := topRanked (entriesFor token es)

/-- Among entries of which none outranks `r`, those of rank `r` lead. -/
theorem topRanked_eq {es : List Entry} {r : Nat} (hle : ∀ e ∈ es, e.rank ≤ r)
    (hmem : ∃ e ∈ es, e.rank = r) : topRanked es = es.filter (·.rank = r) := by
  apply List.filter_congr
  intro e he
  obtain ⟨top, htop, hrank⟩ := hmem
  rw [Bool.eq_iff_iff, List.all_eq_true]
  simp only [decide_eq_true_eq]
  constructor
  · intro hall
    have hge := hall top htop
    have hler := hle e he
    omega
  · intro her f hf
    have hler := hle f hf
    omega

/-- All leading entries have the highest rank. -/
theorem rank_le_of_mem_topRanked {es : List Entry} {top : Entry} (h : top ∈ topRanked es) :
    top ∈ es ∧ ∀ e ∈ es, e.rank ≤ top.rank := by
  have hmem := List.mem_filter.1 h
  refine ⟨hmem.1, ?_⟩
  simpa using hmem.2

section Concat

variable {es : List Entry} {top e : Entry}

/-- An entry that outranks the leading ones leads alone. -/
theorem topRanked_concat_of_lt (htop : top ∈ topRanked es) (h : top.rank < e.rank) :
    topRanked (es ++ [e]) = [e] := by
  obtain ⟨-, hle⟩ := rank_le_of_mem_topRanked htop
  have hconcat : topRanked (es ++ [e]) = (es ++ [e]).filter (·.rank = e.rank) := by
    refine topRanked_eq ?_ ⟨e, by simp, rfl⟩
    intro f hf
    rcases List.mem_append.1 hf with hf | hf
    · have := hle f hf
      omega
    · rw [List.mem_singleton.1 hf]
  have hnone : es.filter (·.rank = e.rank) = [] := by
    rw [List.filter_eq_nil_iff]
    intro f hf
    have := hle f hf
    simp only [decide_eq_true_eq]
    omega
  rw [hconcat, List.filter_append, hnone]
  simp

/-- The leading entries are those of the highest rank, as long as nothing outranks them. -/
theorem topRanked_concat_eq (htop : top ∈ topRanked es) (h : e.rank ≤ top.rank) :
    topRanked (es ++ [e]) = topRanked es ++ [e].filter (·.rank = top.rank) := by
  obtain ⟨hmem, hle⟩ := rank_le_of_mem_topRanked htop
  have hconcat : topRanked (es ++ [e]) = (es ++ [e]).filter (·.rank = top.rank) := by
    refine topRanked_eq ?_ ⟨top, by simp [hmem], rfl⟩
    intro f hf
    rcases List.mem_append.1 hf with hf | hf
    · exact hle f hf
    · rw [List.mem_singleton.1 hf]
      exact h
  rw [hconcat, List.filter_append, topRanked_eq hle ⟨top, hmem, rfl⟩]

/-- An entry of the same rank joins the leading ones. -/
theorem topRanked_concat_of_eq (htop : top ∈ topRanked es) (h : e.rank = top.rank) :
    topRanked (es ++ [e]) = topRanked es ++ [e] := by
  rw [topRanked_concat_eq htop (by omega)]
  simp [h]

/-- An entry that is outranked changes nothing. -/
theorem topRanked_concat_of_gt (htop : top ∈ topRanked es) (h : e.rank < top.rank) :
    topRanked (es ++ [e]) = topRanked es := by
  have hne : e.rank ≠ top.rank := by omega
  rw [topRanked_concat_eq htop (by omega)]
  simp [hne]

end Concat

/-! ## What they come down to -/

/-- What merging makes of entries of one rank: the category of the first, the first
of the longest descriptions, and the first of the longest examples. -/
structure Summarizes (es : List Entry) (e : Entry) : Prop where
  category_eq : es.head?.map (·.category) = some e.category
  description_eq :
    (es.argmax fun f => f.description.utf8ByteSize).map (·.description) = some e.description
  example_eq : (es.argmax Entry.exampleLength).map (·.example?) = some e.example?

theorem Summarizes.single (e : Entry) : Summarizes [e] e :=
  ⟨rfl, rfl, rfl⟩

/-- A summary has the rank of the entries that it comes from. -/
theorem Summarizes.exists_top {es : List Entry} {e : Entry} (h : Summarizes (topRanked es) e) :
    ∃ top ∈ topRanked es, top.rank = e.rank := by
  obtain ⟨top, hhead, hcategory⟩ := Option.map_eq_some_iff.1 h.category_eq
  refine ⟨top, List.mem_of_head? hhead, ?_⟩
  rw [Entry.rank, Entry.rank, hcategory]

/-- One more entry of the same rank is absorbed into the summary. -/
theorem Summarizes.concat {es : List Entry} {e later : Entry} (h : Summarizes es e)
    (hrank : e.rank = later.rank) : Summarizes (es ++ [later]) (e.absorb later) := by
  rw [Entry.absorb_of_eq hrank]
  refine ⟨?_, ?_, ?_⟩
  · obtain ⟨first, hhead, hcategory⟩ := Option.map_eq_some_iff.1 h.category_eq
    rw [List.head?_append, hhead]
    exact congrArg some hcategory
  · exact map_argmax_concat String.utf8ByteSize Entry.description h.description_eq later
  · have hexample : (es.argmax fun f => (f.example?.map String.utf8ByteSize).getD 0).map
        Entry.example? = some e.example? := h.example_eq
    exact map_argmax_concat (fun text => (text.map String.utf8ByteSize).getD 0)
      Entry.example? hexample later

/-- Absorbing an entry keeps the summary of the leading ones. -/
theorem Summarizes.absorb {es : List Entry} {e : Entry} (h : Summarizes (topRanked es) e)
    (later : Entry) : Summarizes (topRanked (es ++ [later])) (e.absorb later) := by
  obtain ⟨top, htop, hrank⟩ := h.exists_top
  rcases Nat.lt_trichotomy e.rank later.rank with hlt | heq | hgt
  · rw [topRanked_concat_of_lt htop (by omega), Entry.absorb_of_lt hlt]
    exact .single later
  · rw [topRanked_concat_of_eq htop (by omega)]
    exact h.concat heq
  · rw [topRanked_concat_of_gt htop (by omega), Entry.absorb_of_gt hgt]
    exact h

/-! ## Tables while they are filled -/

theorem mergeTable_concat (es : List Entry) (e : Entry) :
    mergeTable (es ++ [e]) = mergeEntry (mergeTable es) e := by
  rw [mergeTable, List.foldl_append]
  rfl

/-- The tokens of a table stand in order of first appearance. -/
theorem keys_mergeTable (es : List Entry) :
    (mergeTable es).keys = ((es.map (·.token)).filter (· ≠ "")).eraseDups := by
  induction es using List.reverseRecOn with
  | nil => rfl
  | append_singleton es e ih =>
      rw [mergeTable_concat, mergeEntry, List.map_append, List.filter_append]
      by_cases htoken : e.token = ""
      · rw [if_pos htoken, ih]
        simp [htoken]
      · have hknown : ((mergeTable es).get? e.token).isSome = true ↔
            e.token ∈ (es.map (·.token)).filter (· ≠ "") := by
          rw [← (keeps_mergeTable es).mem_keys_iff, ih, List.mem_eraseDups]
        have hlast : ([e].map (·.token)).filter (· ≠ "") = [e.token] := by simp [htoken]
        rw [if_neg htoken, FirstSeen.keys_note, ih, hlast, eraseDups_concat]
        simp only [hknown]

theorem entriesFor_concat_of_eq {token : String} {e : Entry} (h : e.token = token)
    (es : List Entry) : entriesFor token (es ++ [e]) = entriesFor token es ++ [e] := by
  simp [entriesFor, h]

theorem entriesFor_concat_of_ne {token : String} {e : Entry} (h : e.token ≠ token)
    (es : List Entry) : entriesFor token (es ++ [e]) = entriesFor token es := by
  simp [entriesFor, h]

/-- A token without a value has not occurred. -/
theorem entriesFor_of_get?_eq_none {token : String} (hne : token ≠ "") {es : List Entry}
    (h : (mergeTable es).get? token = none) : entriesFor token es = [] := by
  have hkey : token ∉ (mergeTable es).keys := by
    rw [(keeps_mergeTable es).mem_keys_iff, h]
    simp
  rw [keys_mergeTable, List.mem_eraseDups] at hkey
  rw [entriesFor, List.filter_eq_nil_iff]
  intro e he htoken
  obtain rfl := beq_iff_eq.1 htoken
  exact hkey (by simpa [hne] using ⟨e, he, rfl⟩)

/-- The table holds for each token the summary of the entries that lead. -/
theorem summarizes_of_get? {es : List Entry} {token : String} {e : Entry}
    (h : (mergeTable es).get? token = some e) :
    token ≠ "" ∧ Summarizes (leading token es) e := by
  induction es using List.reverseRecOn generalizing e with
  | nil => simp [mergeTable, FirstSeen.empty, FirstSeen.get?] at h
  | append_singleton es later ih =>
      rw [mergeTable_concat, mergeEntry] at h
      by_cases hempty : later.token = ""
      · rw [if_pos hempty] at h
        obtain ⟨hne, hsum⟩ := ih h
        have hother : later.token ≠ token := by
          rw [hempty]
          exact hne.symm
        rw [leading, entriesFor_concat_of_ne hother]
        exact ⟨hne, hsum⟩
      · rw [if_neg hempty, FirstSeen.get?_note] at h
        by_cases htoken : later.token = token
        · rw [if_pos (by simpa using htoken), htoken] at h
          have hne : token ≠ "" := htoken ▸ hempty
          refine ⟨hne, ?_⟩
          rw [leading, entriesFor_concat_of_eq htoken]
          cases hold : (mergeTable es).get? token with
          | none =>
              rw [hold] at h
              obtain rfl := Option.some.inj h
              rw [entriesFor_of_get?_eq_none hne hold]
              simpa [topRanked] using Summarizes.single later
          | some old =>
              rw [hold] at h
              obtain rfl := Option.some.inj h
              exact (ih hold).2.absorb later
        · rw [if_neg (by simpa using htoken)] at h
          rw [leading, entriesFor_concat_of_ne htoken]
          exact ih h

/-! ## What merging leaves -/

/-- Merging leaves one entry for each token, in the order in which the tokens first
appear. Entries without a token are left out. Each entry that is left has the
category of the first entry that leads for its token, the first of the longest
descriptions of those that lead, and the first of their longest examples. -/
theorem merge_summarizes (es : List Entry) :
    (merge es).map (·.token) = ((es.map (·.token)).filter (· ≠ "")).eraseDups ∧
    ∀ e ∈ merge es, Summarizes (leading e.token es) e := by
  have hkeeps := keeps_mergeTable es
  refine ⟨?_, ?_⟩
  · rw [merge_eq, ← keys_mergeTable]
    exact hkeeps.map_toList Entry.token fun _ _ h => h
  · intro e he
    obtain ⟨token, -, hget⟩ := List.mem_filterMap.1 he
    obtain rfl := hkeeps.good token e hget
    exact (summarizes_of_get? hget).2

/-- A builtin that keywords outrank, keywords that complete each other with ties, an
entry without a token, and an operator between them. -/
def mixedEntries : List Entry :=
  [⟨"x", .builtinFunction, "longest", some "longest"⟩, ⟨"", .keyword, "a", none⟩,
    ⟨"x", .keyword, "b", none⟩, ⟨"y", .operator, "c", none⟩, ⟨"x", .keyword, "dd", some ""⟩,
    ⟨"x", .keyword, "ee", some "1"⟩, ⟨"x", .keyword, "f", some "2"⟩,
    ⟨"x", .delimiter, "longest", none⟩]

theorem merge_summarizes_mixed :
    (merge mixedEntries).map (·.token) = ["x", "y"] ∧
      ⟨"x", .keyword, "dd", some "1"⟩ ∈ merge mixedEntries := by
  obtain ⟨htokens, hsummary⟩ := merge_summarizes mixedEntries
  have hlist : (merge mixedEntries).map (·.token) = ["x", "y"] := htokens.trans (by decide)
  obtain ⟨e, he, htoken⟩ : ∃ e ∈ merge mixedEntries, e.token = "x" := by
    have hmem : "x" ∈ (merge mixedEntries).map (·.token) := by simp [hlist]
    simpa using hmem
  have hsum := hsummary e he
  rw [htoken] at hsum
  have hcategory : some .keyword = some e.category := hsum.category_eq
  have hdescription : some "dd" = some e.description := hsum.description_eq
  have hexample : some (some "1") = some e.example? := hsum.example_eq
  refine ⟨hlist, ?_⟩
  convert he using 1
  cases e
  simp_all

end Glossary
