import Glossary.Proofs.Dictionary.Precedence

/-!
# Merging piece by piece

A reference can be merged as a whole, or in pieces whose results are merged again. What a
piece leaves are entries that may stand nowhere in it, and most of what it held is gone. That
nothing of this could have mattered later comes down to one law: absorbing is associative.
Whichever two of three entries for a token are taken together first, the highest rank decides,
the first entry of that rank gives the category, and the first of the longest texts stays.

So the entries for a token come down to one, however they are grouped, and what merging leaves
is told by two things: in which order the tokens appear first, and what the entries for each
token come down to. Both are the same for entries and for what merging leaves of them.

## Main results

* `Entry.absorb_assoc` — absorbing is associative.
* `absorbAll_append` — what the entries of two lists come down to.
* `merge_eq_iff` — when merging leaves the same.
* `merge_merge` — merging again changes nothing.
* `merge_piecewise` — merging in pieces.
-/

namespace Glossary

/-! ## Absorbing -/

theorem longer_assoc {α : Type} (size : α → Nat) (a b c : α) :
    longer size (longer size a b) c = longer size a (longer size b c) := by
  unfold longer
  by_cases hab : size a < size b
  · by_cases hbc : size b < size c
    · have hac : size a < size c := by omega
      simp only [hab, hbc, hac, if_true]
    · simp only [hab, hbc, if_true, if_false]
  · by_cases hbc : size b < size c
    · simp only [hab, hbc, if_true, if_false]
    · have hac : ¬size a < size c := by omega
      simp only [hab, hbc, hac, if_false]

namespace Entry

/-- Of three entries it is no matter which two are taken together first. -/
theorem absorb_assoc (e f g : Entry) : (e.absorb f).absorb g = e.absorb (f.absorb g) := by
  rcases Nat.lt_trichotomy e.rank f.rank with hef | hef | hef
  · have hright : e.rank < (f.absorb g).rank := by
      rw [rank_absorb]
      omega
    rw [absorb_of_lt hef, absorb_of_lt hright]
  · rcases Nat.lt_trichotomy f.rank g.rank with hfg | hfg | hfg
    · have hleft : (e.absorb f).rank < g.rank := by
        rw [rank_absorb]
        omega
      rw [absorb_of_lt hleft, absorb_of_lt hfg, absorb_of_lt (by omega)]
    · -- all three have one rank, so each text is the longest of three
      have hleft : (e.absorb f).rank = g.rank := by
        rw [rank_absorb]
        omega
      have hright : e.rank = (f.absorb g).rank := by
        rw [rank_absorb]
        omega
      rw [absorb_of_eq hleft, absorb_of_eq hright, absorb_of_eq hef, absorb_of_eq hfg]
      simp only [longer_assoc]
    · have hleft : g.rank < (e.absorb f).rank := by
        rw [rank_absorb]
        omega
      rw [absorb_of_gt hleft, absorb_of_gt hfg]
  · have hleft : (e.absorb f).absorb g = e.absorb g := by rw [absorb_of_gt hef]
    rw [hleft]
    rcases Nat.lt_trichotomy f.rank g.rank with hfg | hfg | hfg
    · rw [absorb_of_lt hfg]
    · have hright : (f.absorb g).rank < e.rank := by
        rw [rank_absorb]
        omega
      rw [absorb_of_gt hright, absorb_of_gt (by omega)]
    · rw [absorb_of_gt hfg, absorb_of_gt hef, absorb_of_gt (by omega)]

instance : Std.Associative absorb := ⟨absorb_assoc⟩

end Entry

/-- What entries come down to when each absorbs the next, if there are any. -/
def absorbAll (es : List Entry) : Option Entry :=
  es.foldl (fun e? later => e?.merge Entry.absorb (some later)) none

theorem absorbAll_concat (es : List Entry) (e : Entry) :
    absorbAll (es ++ [e]) = (absorbAll es).merge Entry.absorb (some e) := by
  rw [absorbAll, List.foldl_append]
  rfl

/-- The entries of two lists come down to what those of each come down to. -/
theorem absorbAll_append (es fs : List Entry) :
    absorbAll (es ++ fs) = (absorbAll es).merge Entry.absorb (absorbAll fs) := by
  -- from the last entry on, which is the one absorbed last on both sides
  induction fs using List.reverseRecOn with
  | nil => simp [absorbAll]
  | append_singleton fs f ih =>
      rw [← List.append_assoc, absorbAll_concat, absorbAll_concat, ih]
      exact Std.Associative.assoc _ _ _

theorem absorbAll_toList (e? : Option Entry) : absorbAll e?.toList = e? := by
  cases e? with
  | none => rfl
  | some e => rfl

/-! ## Tokens in order of first appearance -/

/-- The tokens of some entries in order of first appearance. -/
def tokensOf (es : List Entry) : List String :=
  ((es.map (·.token)).filter (· ≠ "")).eraseDups

theorem mem_tokensOf {token : String} {es : List Entry} :
    token ∈ tokensOf es ↔ token ≠ "" ∧ ∃ e ∈ es, e.token = token := by
  rw [tokensOf, List.mem_eraseDups, List.mem_filter, List.mem_map, decide_eq_true_iff]
  exact and_comm

/-- The tokens of two lists appear in an order that is told by the order of each. -/
theorem tokensOf_append (es fs : List Entry) :
    tokensOf (es ++ fs) = (tokensOf es ++ tokensOf fs).eraseDups := by
  rw [tokensOf, tokensOf, tokensOf, eraseDups_append_eraseDups, eraseDups_eraseDups_append,
    List.map_append, List.filter_append]

/-! ## What merging leaves, token by token -/

theorem entriesFor_append (token : String) (es fs : List Entry) :
    entriesFor token (es ++ fs) = entriesFor token es ++ entriesFor token fs :=
  List.filter_append es fs

/-- The table holds for each token what its entries come down to. -/
theorem get?_mergeTable {token : String} (hne : token ≠ "") (es : List Entry) :
    (mergeTable es).get? token = absorbAll (entriesFor token es) := by
  induction es using List.reverseRecOn with
  | nil => simp [mergeTable, FirstSeen.empty, FirstSeen.get?, entriesFor, absorbAll]
  | append_singleton es e ih =>
      rw [mergeTable_concat, mergeEntry]
      by_cases htoken : e.token = token
      · rw [if_neg (htoken ▸ hne), FirstSeen.get?_note, if_pos (by simpa using htoken), htoken,
          ih, entriesFor_concat_of_eq htoken, absorbAll_concat]
        cases absorbAll (entriesFor token es) with
        | none => rfl
        | some old => rfl
      · rw [entriesFor_concat_of_ne htoken, ← ih]
        by_cases hempty : e.token = ""
        · rw [if_pos hempty]
        · rw [if_neg hempty, FirstSeen.get?_note, if_neg (by simpa using htoken)]

/-- Merging leaves for each token, in order of first appearance, what its entries come down
to. -/
theorem merge_eq_filterMap (es : List Entry) :
    merge es = (tokensOf es).filterMap fun token => absorbAll (entriesFor token es) := by
  rw [merge_eq, FirstSeen.toList, keys_mergeTable]
  apply List.filterMap_congr
  intro token htoken
  exact get?_mergeTable (mem_tokensOf.1 htoken).1 es

theorem map_token_merge (es : List Entry) : (merge es).map (·.token) = tokensOf es := by
  rw [merge_eq, (keeps_mergeTable es).map_toList Entry.token fun _ _ h => h, keys_mergeTable]
  rfl

/-- For one token merging leaves one entry, if there is any for it. -/
theorem entriesFor_merge {token : String} (hne : token ≠ "") (es : List Entry) :
    entriesFor token (merge es) = (absorbAll (entriesFor token es)).toList := by
  rw [entriesFor, merge_eq, (keeps_mergeTable es).filter_toList Entry.token fun _ _ h => h,
    get?_mergeTable hne]

theorem absorbAll_entriesFor_merge {token : String} (hne : token ≠ "") (es : List Entry) :
    absorbAll (entriesFor token (merge es)) = absorbAll (entriesFor token es) := by
  rw [entriesFor_merge hne, absorbAll_toList]

theorem tokensOf_merge (es : List Entry) : tokensOf (merge es) = tokensOf es := by
  have hne : (tokensOf es).filter (· ≠ "") = tokensOf es := by
    rw [List.filter_eq_self]
    intro token htoken
    simpa using (mem_tokensOf.1 htoken).1
  rw [tokensOf, map_token_merge, hne, tokensOf]
  exact eraseDups_append_eraseDups [] _

/-- Merging leaves the same where tokens appear in one order and the entries for each come down
to the same. -/
theorem merge_eq_iff {es fs : List Entry} :
    merge es = merge fs ↔ tokensOf es = tokensOf fs ∧
      ∀ token, token ≠ "" → absorbAll (entriesFor token es) = absorbAll (entriesFor token fs) := by
  constructor
  · intro h
    refine ⟨by rw [← map_token_merge, h, map_token_merge], ?_⟩
    intro token hne
    rw [← absorbAll_entriesFor_merge hne, h, absorbAll_entriesFor_merge hne]
  · rintro ⟨htokens, hall⟩
    rw [merge_eq_filterMap, merge_eq_filterMap, htokens]
    apply List.filterMap_congr
    intro token htoken
    exact hall token (mem_tokensOf.1 htoken).1

/-! ## Pieces -/

/-- Merging again changes nothing. -/
theorem merge_merge (es : List Entry) : merge (merge es) = merge es :=
  merge_eq_iff.2 ⟨tokensOf_merge es, fun _ hne => absorbAll_entriesFor_merge hne es⟩

/-- A piece may be replaced by another that leaves the same. -/
theorem merge_append_congr {es es' fs fs' : List Entry} (he : merge es = merge es')
    (hf : merge fs = merge fs') : merge (es ++ fs) = merge (es' ++ fs') := by
  obtain ⟨hetokens, heall⟩ := merge_eq_iff.1 he
  obtain ⟨hftokens, hfall⟩ := merge_eq_iff.1 hf
  refine merge_eq_iff.2 ⟨?_, ?_⟩
  · rw [tokensOf_append, tokensOf_append, hetokens, hftokens]
  · intro token hne
    rw [entriesFor_append, entriesFor_append, absorbAll_append, absorbAll_append,
      heall token hne, hfall token hne]

/-- Merging two pieces first and then what they leave is merging all at once, entry by entry in
the same order. So is merging any number of pieces, and merging again changes nothing. -/
theorem merge_piecewise (es fs : List Entry) :
    merge (es ++ fs) = merge (merge es ++ merge fs) ∧
    merge (merge es) = merge es ∧
    ∀ pieces : List (List Entry), merge pieces.flatten = merge (pieces.map merge).flatten := by
  refine ⟨merge_append_congr (merge_merge es).symm (merge_merge fs).symm, merge_merge es, ?_⟩
  intro pieces
  induction pieces with
  | nil => rfl
  | cons piece pieces ih =>
      rw [List.map_cons, List.flatten_cons, List.flatten_cons]
      exact merge_append_congr (merge_merge piece).symm ih

end Glossary
