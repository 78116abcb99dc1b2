import Glossary.Proofs.Dictionary.Pieces

/-!
# Which constants are shadowed

Whether a constant is shadowed is asked of the merged entries only: its token has to be that
of a keyword there. A keyword is outranked by nothing, so a token is that of a merged keyword
exactly when some entry explains it as a keyword, wherever it stands and whatever else explains
it. So the question can be answered from the parsed entries alone.

Of the constants with one token the first is kept. That goes by a table of the tokens seen so
far, and an entry more at the end of a list is either known to it or comes last. From this the
places of the entries that are kept follow, by induction from the end.

## Main results

* `mem_keywordTokens_merge` — the tokens that are keywords after merging.
* `firstPerToken_concat` — what one more entry adds to the first ones.
* `exists_places` — where the first entries stand.
* `shadowedConstants_places` — where the shadowed constants stand.
-/

namespace Glossary

/-! ## Keywords after merging -/

/-- Only keywords have the rank of a keyword. -/
theorem Entry.category_eq_keyword_iff {e : Entry} :
    e.category = .keyword ↔ Kind.keyword.rank ≤ e.rank := by
  unfold Entry.rank
  cases e.category <;> decide

/-- Some entry for the token has the category of what merging leaves for it, and none of them
outranks that one. -/
theorem exists_of_mem_merge {es : List Entry} {e : Entry} (h : e ∈ merge es) :
    ∃ first ∈ es, first.token = e.token ∧ first.category = e.category ∧
      ∀ f ∈ es, f.token = e.token → f.rank ≤ first.rank := by
  obtain ⟨-, hsummary⟩ := summarizes_of_get? (get?_of_mem_merge h)
  obtain ⟨first, hhead, hcategory⟩ := Option.map_eq_some_iff.1 hsummary.category_eq
  obtain ⟨hfirst, hle⟩ := rank_le_of_mem_topRanked (List.mem_of_head? hhead)
  obtain ⟨hmem, htoken⟩ := List.mem_filter.1 hfirst
  refine ⟨first, hmem, by simpa using htoken, hcategory, ?_⟩
  intro f hf hftoken
  exact hle f (List.mem_filter.2 ⟨hf, by simpa using hftoken⟩)

/-- A token is that of a keyword after merging when some entry explains it as a keyword. -/
theorem mem_keywordTokens_merge {token : String} {es : List Entry} :
    token ∈ keywordTokens (merge es) ↔
      token ≠ "" ∧ ∃ k ∈ es, k.category = .keyword ∧ k.token = token := by
  rw [mem_keywordTokens]
  constructor
  · rintro ⟨e, he, hkeyword, rfl⟩
    obtain ⟨hne, -⟩ := summarizes_of_get? (get?_of_mem_merge he)
    obtain ⟨first, hmem, htoken, hcategory, -⟩ := exists_of_mem_merge he
    exact ⟨hne, first, hmem, hcategory.trans hkeyword, htoken⟩
  · rintro ⟨hne, k, hk, hkeyword, rfl⟩
    have hleft : k.token ∈ (merge es).map (·.token) := by
      rw [map_token_merge]
      exact mem_tokensOf.2 ⟨hne, k, hk, rfl⟩
    obtain ⟨e, he, htoken⟩ := List.mem_map.1 hleft
    obtain ⟨first, -, -, hcategory, hle⟩ := exists_of_mem_merge he
    have hrank := hle k hk htoken.symm
    rw [Entry.category_eq_keyword_iff] at hkeyword
    refine ⟨e, he, ?_, htoken⟩
    rw [← hcategory, Entry.category_eq_keyword_iff]
    omega

/-! ## The first entry for a token -/

/-- A key that is known keeps its value, and a new one comes last. -/
theorem FirstSeen.Keeps.toList_note_id {κ α : Type} [BEq κ] [Hashable κ] [LawfulBEq κ]
    {t : FirstSeen κ α} {good : κ → α → Prop} (h : t.Keeps good) (k : κ) (fresh : α) :
    (t.note k fresh id).toList =
      if (t.get? k).isSome = true then t.toList else t.toList ++ [fresh] := by
  have hothers : ∀ l, l ≠ k → (t.note k fresh id).get? l = t.get? l := by
    intro l hl
    rw [FirstSeen.get?_note, if_neg (by simpa using hl.symm)]
  have hsame : (t.note k fresh id).get? k = some ((t.get? k).getD fresh) := by
    rw [FirstSeen.get?_note, if_pos (beq_self_eq_true k), Option.map_id_fun, id]
  rw [FirstSeen.toList, FirstSeen.keys_note]
  by_cases hk : (t.get? k).isSome = true
  · rw [if_pos hk, if_pos hk]
    apply List.filterMap_congr
    intro l _
    by_cases hl : l = k
    · obtain ⟨v, hv⟩ := Option.isSome_iff_exists.1 hk
      rw [hl, hsame, hv, Option.getD_some]
    · exact hothers l hl
  · have hold : t.keys.filterMap (t.note k fresh id).get? = t.toList := by
      apply List.filterMap_congr
      intro l hl
      apply hothers
      rintro rfl
      exact hk ((h.mem_keys_iff l).1 hl)
    rw [if_neg hk, if_neg hk, List.filterMap_append, hold]
    rw [Option.not_isSome_iff_eq_none] at hk
    simp [hsame, hk]

/-- The table of the first entries for each token. -/
def firstTable (es : List Entry) : FirstSeen String Entry :=
  es.foldl (fun seen e => seen.note e.token e id) .empty

theorem firstPerToken_eq (es : List Entry) : firstPerToken es = (firstTable es).toList := rfl

theorem firstTable_concat (es : List Entry) (e : Entry) :
    firstTable (es ++ [e]) = (firstTable es).note e.token e id := by
  rw [firstTable, List.foldl_append]
  rfl

theorem keeps_firstTable (es : List Entry) :
    (firstTable es).Keeps fun token e => e.token = token ∧ e ∈ es :=
  keeps_first es

theorem keys_firstTable (es : List Entry) :
    (firstTable es).keys = (es.map (·.token)).eraseDups := by
  induction es using List.reverseRecOn with
  | nil => rfl
  | append_singleton es e ih =>
      have hknown : ((firstTable es).get? e.token).isSome = true ↔ e.token ∈ es.map (·.token) := by
        rw [← (keeps_firstTable es).mem_keys_iff, ih, List.mem_eraseDups]
      rw [firstTable_concat, FirstSeen.keys_note, ih, List.map_append, List.map_singleton,
        eraseDups_concat]
      simp only [hknown]

/-- The first entries have the tokens that occur. -/
theorem map_token_firstPerToken (es : List Entry) :
    (firstPerToken es).map (·.token) = (es.map (·.token)).eraseDups := by
  rw [firstPerToken_eq, (keeps_firstTable es).map_toList Entry.token fun _ _ h => h.1,
    keys_firstTable]

/-- One more entry is a first one if its token has not occurred. -/
theorem firstPerToken_concat (es : List Entry) (e : Entry) :
    firstPerToken (es ++ [e]) =
      if e.token ∈ es.map (·.token) then firstPerToken es else firstPerToken es ++ [e] := by
  have hkeeps := keeps_firstTable es
  have hknown : ((firstTable es).get? e.token).isSome = true ↔ e.token ∈ es.map (·.token) := by
    rw [← hkeeps.mem_keys_iff, keys_firstTable, List.mem_eraseDups]
  rw [firstPerToken_eq, firstTable_concat, hkeeps.toList_note_id]
  simp only [hknown]
  rfl

theorem firstPerToken_sublist (es : List Entry) : (firstPerToken es).Sublist es := by
  induction es using List.reverseRecOn with
  | nil => exact .slnil
  | append_singleton es e ih =>
      rw [firstPerToken_concat]
      split
      · exact ih.trans (List.sublist_append_left es [e])
      · exact ih.append (.refl [e])

/-! ## Places -/

/-- The place holds an entry of those that are asked for, and none of them before it has its
token. -/
def FirstAt (asked : Entry → Bool) (es : List Entry) (k : Nat) : Prop :=
  ∃ e ∈ es[k]?, asked e = true ∧ ∀ j < k, ∀ f ∈ es[j]?, asked f = true → f.token ≠ e.token

section Places

variable {asked : Entry → Bool} {es : List Entry} {e : Entry} {k : Nat}

theorem FirstAt.lt (h : FirstAt asked es k) : k < es.length := by
  obtain ⟨e, he, -⟩ := h
  exact (List.getElem?_eq_some_iff.1 he).1

/-- One more entry does not change which places before it hold a first one. -/
theorem firstAt_concat_of_lt (h : k < es.length) :
    FirstAt asked (es ++ [e]) k ↔ FirstAt asked es k := by
  have hbelow : ∀ j, j ≤ k → (es ++ [e])[j]? = es[j]? :=
    fun j hj => List.getElem?_append_left (by omega)
  unfold FirstAt
  rw [hbelow k le_rfl]
  constructor
  · rintro ⟨d, hd, hasked, hfirst⟩
    refine ⟨d, hd, hasked, fun j hj f hf => hfirst j hj f ?_⟩
    rw [hbelow j hj.le]
    exact hf
  · rintro ⟨d, hd, hasked, hfirst⟩
    refine ⟨d, hd, hasked, fun j hj f hf => hfirst j hj f ?_⟩
    rw [← hbelow j hj.le]
    exact hf

/-- The last place holds a first entry if the token has not occurred among those asked for. -/
theorem firstAt_concat_length :
    FirstAt asked (es ++ [e]) es.length ↔
      asked e = true ∧ e.token ∉ (es.filter asked).map (·.token) := by
  have hlast : (es ++ [e])[es.length]? = some e := by simp
  constructor
  · rintro ⟨d, hd, hasked, hfirst⟩
    obtain rfl : e = d := Option.some.inj (hlast.symm.trans hd)
    refine ⟨hasked, ?_⟩
    intro hmem
    obtain ⟨f, hf, htoken⟩ := List.mem_map.1 hmem
    obtain ⟨hf, hfasked⟩ := List.mem_filter.1 hf
    obtain ⟨j, hj⟩ := List.mem_iff_getElem?.1 hf
    have hlt : j < es.length := (List.getElem?_eq_some_iff.1 hj).1
    refine hfirst j hlt f ?_ hfasked htoken
    rw [List.getElem?_append_left hlt]
    exact hj
  · rintro ⟨hasked, hnew⟩
    refine ⟨e, hlast, hasked, ?_⟩
    intro j hj f hf hfasked htoken
    rw [List.getElem?_append_left hj] at hf
    exact hnew (List.mem_map.2 ⟨f, List.mem_filter.2 ⟨List.mem_of_getElem? hf, hfasked⟩, htoken⟩)

/-- The places that hold a first entry are those from before and perhaps the last. -/
theorem firstAt_concat_iff :
    FirstAt asked (es ++ [e]) k ↔
      FirstAt asked es k ∨ k = es.length ∧ FirstAt asked (es ++ [e]) es.length := by
  constructor
  · intro hk
    have hlt := hk.lt
    rw [List.length_append, List.length_singleton] at hlt
    rcases Nat.lt_or_eq_of_le (Nat.le_of_lt_succ hlt) with hbefore | rfl
    · exact .inl ((firstAt_concat_of_lt hbefore).1 hk)
    · exact .inr ⟨rfl, hk⟩
  · rintro (hk | ⟨rfl, hk⟩)
    · exact (firstAt_concat_of_lt hk.lt).2 hk
    · exact hk

theorem firstPerToken_filter_concat (h : FirstAt asked (es ++ [e]) es.length) :
    firstPerToken ((es ++ [e]).filter asked) = firstPerToken (es.filter asked) ++ [e] := by
  obtain ⟨hasked, hnew⟩ := firstAt_concat_length.1 h
  have hfilter : (es ++ [e]).filter asked = es.filter asked ++ [e] := by simp [hasked]
  rw [hfilter, firstPerToken_concat, if_neg hnew]

theorem firstPerToken_filter_concat_of_not (h : ¬FirstAt asked (es ++ [e]) es.length) :
    firstPerToken ((es ++ [e]).filter asked) = firstPerToken (es.filter asked) := by
  by_cases hasked : asked e = true
  · have hold : e.token ∈ (es.filter asked).map (·.token) := by
      by_contra hnew
      exact h (firstAt_concat_length.2 ⟨hasked, hnew⟩)
    have hfilter : (es ++ [e]).filter asked = es.filter asked ++ [e] := by simp [hasked]
    rw [hfilter, firstPerToken_concat, if_pos hold]
  · have hfilter : (es ++ [e]).filter asked = es.filter asked := by simp [hasked]
    rw [hfilter]

/-- The first entries among those that are asked for stand at the places that hold one. -/
theorem exists_places (asked : Entry → Bool) (es : List Entry) :
    ∃ places : List Nat, places.Pairwise (· < ·) ∧ (∀ k, k ∈ places ↔ FirstAt asked es k) ∧
      firstPerToken (es.filter asked) = places.filterMap (es[·]?) := by
  -- from the last entry on; its place comes last, or it is not among them
  induction es using List.reverseRecOn with
  | nil =>
      refine ⟨[], .nil, ?_, rfl⟩
      intro k
      simp [FirstAt]
  | append_singleton es e ih =>
      obtain ⟨places, hascending, hmem, hentries⟩ := ih
      have hlt : ∀ k ∈ places, k < es.length := fun k hk => ((hmem k).1 hk).lt
      have hbefore : places.filterMap ((es ++ [e])[·]?) = places.filterMap (es[·]?) :=
        List.filterMap_congr fun k hk => List.getElem?_append_left (hlt k hk)
      by_cases hlast : FirstAt asked (es ++ [e]) es.length
      · refine ⟨places ++ [es.length], ?_, ?_, ?_⟩
        · refine List.pairwise_append.2 ⟨hascending, List.pairwise_singleton _ _, ?_⟩
          intro j hj k hk
          rw [List.mem_singleton.1 hk]
          exact hlt j hj
        · intro k
          rw [List.mem_append, List.mem_singleton, hmem, firstAt_concat_iff, and_iff_left hlast]
        · rw [firstPerToken_filter_concat hlast, hentries, List.filterMap_append, hbefore]
          simp
      · refine ⟨places, hascending, ?_, ?_⟩
        · intro k
          rw [hmem, firstAt_concat_iff]
          simp [hlast]
        · rw [firstPerToken_filter_concat_of_not hlast, hentries, hbefore]

end Places

/-! ## Shadowed constants -/

/-- The place holds the first constant for a token that some entry explains as a keyword. -/
def ShadowedAt (parsed : List Entry) (k : Nat) : Prop :=
  ∃ e ∈ parsed[k]?, e.category = .builtinConstant ∧ e.token ≠ "" ∧
    (∃ f ∈ parsed, f.category = .keyword ∧ f.token = e.token) ∧
    ∀ j < k, ∀ f ∈ parsed[j]?, f.category = .builtinConstant → f.token ≠ e.token

instance (parsed : List Entry) (k : Nat) : Decidable (ShadowedAt parsed k) := by
  unfold ShadowedAt
  infer_instance

/-- A constant that a keyword has displaced. -/
def isDisplaced (merged : List Entry) (e : Entry) : Bool :=
  e.category == .builtinConstant && (keywordTokens merged).contains e.token

section Shadowed

variable {parsed merged : List Entry}

theorem shadowedConstants_eq_firstPerToken (parsed merged : List Entry) :
    shadowedConstants parsed merged = firstPerToken (parsed.filter (isDisplaced merged)) :=
  shadowedConstants_eq parsed merged

theorem isDisplaced_iff (h : merged.Perm (merge parsed)) {e : Entry} :
    isDisplaced merged e = true ↔ e.category = .builtinConstant ∧ e.token ≠ "" ∧
      ∃ k ∈ parsed, k.category = .keyword ∧ k.token = e.token := by
  have htokens : (keywordTokens merged).Perm (keywordTokens (merge parsed)) :=
    (h.filter _).map _
  rw [isDisplaced, Bool.and_eq_true, beq_iff_eq, List.contains_iff_mem, htokens.mem_iff,
    mem_keywordTokens_merge]

theorem firstAt_isDisplaced_iff (h : merged.Perm (merge parsed)) {k : Nat} :
    FirstAt (isDisplaced merged) parsed k ↔ ShadowedAt parsed k := by
  constructor
  · rintro ⟨e, he, hdisplaced, hfirst⟩
    obtain ⟨hcategory, hne, hkeyword⟩ := (isDisplaced_iff h).1 hdisplaced
    refine ⟨e, he, hcategory, hne, hkeyword, ?_⟩
    intro j hj f hf hfcategory htoken
    -- a constant with the same token is displaced by the same keyword
    refine hfirst j hj f hf ((isDisplaced_iff h).2 ⟨hfcategory, ?_, ?_⟩) htoken
    · rw [htoken]
      exact hne
    · rw [htoken]
      exact hkeyword
  · rintro ⟨e, he, hcategory, hne, hkeyword, hfirst⟩
    refine ⟨e, he, (isDisplaced_iff h).2 ⟨hcategory, hne, hkeyword⟩, ?_⟩
    intro j hj f hf hdisplaced
    exact hfirst j hj f hf ((isDisplaced_iff h).1 hdisplaced).1

/-- For each token that the parsed entries explain both as a keyword and as a constant, the
first such constant is shadowed, and nothing else is. The shadowed constants stand in the order
in which they were parsed, one for each token, and the order of the merged entries is no
matter. -/
theorem shadowedConstants_places (h : merged.Perm (merge parsed)) :
    (∃ places : List Nat, places.Pairwise (· < ·) ∧ (∀ k, k ∈ places ↔ ShadowedAt parsed k) ∧
      shadowedConstants parsed merged = places.filterMap (parsed[·]?)) ∧
    (shadowedConstants parsed merged).Sublist parsed ∧
    (∀ token, token ∈ (shadowedConstants parsed merged).map (·.token) ↔ token ≠ "" ∧
      (∃ k ∈ parsed, k.category = .keyword ∧ k.token = token) ∧
      ∃ e ∈ parsed, e.category = .builtinConstant ∧ e.token = token) ∧
    ((shadowedConstants parsed merged).map (·.token)).Nodup ∧
    shadowedConstants parsed merged = shadowedConstants parsed (merge parsed) := by
  refine ⟨?_, ?_, ?_, distinctTokens_shadowedConstants parsed merged,
    shadowedConstants_eq_of_perm parsed h⟩
  · obtain ⟨places, hascending, hmem, hentries⟩ := exists_places (isDisplaced merged) parsed
    refine ⟨places, hascending, fun k => (hmem k).trans (firstAt_isDisplaced_iff h), ?_⟩
    rw [shadowedConstants_eq_firstPerToken]
    exact hentries
  · rw [shadowedConstants_eq_firstPerToken]
    exact (firstPerToken_sublist _).trans List.filter_sublist
  · intro token
    rw [shadowedConstants_eq_firstPerToken, map_token_firstPerToken, List.mem_eraseDups,
      List.mem_map]
    simp only [List.mem_filter, isDisplaced_iff h]
    constructor
    · rintro ⟨e, ⟨he, hcategory, hne, hkeyword⟩, rfl⟩
      exact ⟨hne, hkeyword, e, he, hcategory, rfl⟩
    · rintro ⟨hne, hkeyword, e, he, hcategory, rfl⟩
      exact ⟨e, ⟨he, hcategory, hne, hkeyword⟩, rfl⟩

/-- A token that is a keyword and a constant twice, one that is a constant only, and an empty
one that is both. -/
def repeatedConstants : List Entry :=
  [⟨"", .builtinConstant, "a", none⟩, ⟨"Ellipsis", .builtinConstant, "b", none⟩,
    ⟨"None", .builtinFunction, "c", none⟩, ⟨"None", .builtinConstant, "d", none⟩,
    ⟨"None", .builtinConstant, "longer", none⟩, ⟨"None", .keyword, "e", none⟩,
    ⟨"", .keyword, "f", none⟩]

theorem shadowedConstants_places_repeated :
    shadowedConstants repeatedConstants (merge repeatedConstants).reverse =
      [⟨"None", .builtinConstant, "d", none⟩] := by
  obtain ⟨⟨places, hascending, hmem, hentries⟩, -⟩ :=
    shadowedConstants_places (List.reverse_perm (merge repeatedConstants))
  have hbelow : ∀ k < 7, (ShadowedAt repeatedConstants k ↔ k = 3) := by decide
  have hthird : ∀ k, k ∈ places ↔ k ∈ [3] := by
    intro k
    rw [hmem, List.mem_singleton]
    constructor
    · intro hk
      have hlt : k < repeatedConstants.length := by
        obtain ⟨e, he, -⟩ := hk
        exact (List.getElem?_eq_some_iff.1 he).1
      exact (hbelow k hlt).1 hk
    · rintro rfl
      exact (hbelow 3 (by decide)).2 rfl
  have hperm : places.Perm [3] :=
    (List.perm_ext_iff_of_nodup (hascending.imp ne_of_lt) (List.nodup_singleton 3)).2 hthird
  rw [hentries, List.perm_singleton.1 hperm]
  rfl

end Shadowed

end Glossary
