import Glossary.Merge
import Glossary.Proofs.Dictionary.Order

/-!
# What merging leaves

A table in order of first appearance keeps its keys distinct and has a value
for exactly these keys. What noting preserves about the value of one key it
preserves about all of them, because it changes no other. Both merging and the
choice of the first entry for each token fill such a table, so what they leave
are entries with tokens of their own.

Which builtin constants are shadowed depends on the set of tokens that are
keywords after merging, and not on their order.

## Main results

* `FirstSeen.Keeps.note` — what noting a key preserves.
* `distinctTokens_merge` — merging leaves one entry for a token.
* `forall_mem_merge` — what absorbing keeps, merging keeps.
* `mem_shadowedConstants` — a shadowed constant, and the keyword that wins.
* `shadowedConstants_eq_of_perm` — the order of the merged entries is no matter.
-/

namespace Glossary

/-! ## Tables in order of first appearance -/

namespace FirstSeen

variable {κ α : Type} [BEq κ] [Hashable κ]

/-- The keys are distinct, they are those with a value, and every value is as it
should be for its key. -/
structure Keeps (t : FirstSeen κ α) (good : κ → α → Prop) : Prop where
  nodup : t.keys.Nodup
  mem_keys_iff : ∀ k, k ∈ t.keys ↔ (t.get? k).isSome = true
  good : ∀ k v, t.get? k = some v → good k v

theorem Keeps.empty (good : κ → α → Prop) : (FirstSeen.empty : FirstSeen κ α).Keeps good :=
  ⟨.nil, by simp [FirstSeen.empty, keys, get?], by simp [FirstSeen.empty, get?]⟩

/-- Noting a key is to be checked at that key only. -/
theorem Keeps.note [LawfulBEq κ] {t : FirstSeen κ α} {good : κ → α → Prop}
    (h : t.Keeps good) {k : κ} {fresh : α} {change : α → α} (hfresh : good k fresh)
    (hchange : ∀ v, good k v → good k (change v)) : (t.note k fresh change).Keeps good := by
  refine ⟨?_, ?_, ?_⟩
  · rw [keys_note]
    by_cases hk : (t.get? k).isSome = true
    · rw [if_pos hk]
      exact h.nodup
    · rw [if_neg hk]
      rw [← h.mem_keys_iff] at hk
      refine List.nodup_append.2 ⟨h.nodup, by simp, ?_⟩
      intro l hl m hm hlm
      rw [hlm, List.mem_singleton.1 hm] at hl
      exact hk hl
  · intro l
    rw [keys_note, get?_note]
    by_cases hkl : k = l
    · subst hkl
      by_cases hk : (t.get? k).isSome = true
      · simp [hk, h.mem_keys_iff]
      · simp [hk]
    · have hlk : l ≠ k := Ne.symm hkl
      by_cases hk : (t.get? k).isSome = true
      · simp [hk, hkl, h.mem_keys_iff]
      · simp [hk, hkl, hlk, h.mem_keys_iff]
  · intro l v hv
    rw [get?_note] at hv
    by_cases hkl : k = l
    · subst hkl
      rw [if_pos (beq_self_eq_true k), Option.some.injEq] at hv
      subst hv
      cases hk : t.get? k with
      | none => exact hfresh
      | some w => exact hchange w (h.good k w hk)
    · rw [if_neg (by simpa using hkl)] at hv
      exact h.good l v hv

/-- The values of a table, by their keys. -/
theorem Keeps.map_toList {t : FirstSeen κ α} {good : κ → α → Prop} (h : t.Keeps good)
    (key : α → κ) (hkey : ∀ k v, good k v → key v = k) : t.toList.map key = t.keys := by
  rw [toList, List.map_filterMap]
  conv => rhs; rw [← List.filterMap_some (l := t.keys)]
  apply List.filterMap_congr
  intro k hk
  rw [h.mem_keys_iff, Option.isSome_iff_exists] at hk
  obtain ⟨v, hv⟩ := hk
  rw [hv, Option.map_some, hkey k v (h.good k v hv)]

/-- For each key the value that stands there is the only one with it. -/
theorem Keeps.filter_toList [LawfulBEq κ] {t : FirstSeen κ α} {good : κ → α → Prop}
    (h : t.Keeps good) (key : α → κ) (hkey : ∀ k v, good k v → key v = k) (k : κ) :
    t.toList.filter (key · == k) = (t.get? k).toList := by
  have hvalue : ∀ l, (t.get? l).filter (key · == k) = if l == k then t.get? l else none := by
    intro l
    cases hl : t.get? l with
    | none => simp
    | some v => rw [Option.filter_some, hkey l v (h.good l v hl)]
  have hkeys : t.keys.filter (· == k) = if k ∈ t.keys then [k] else [] := by
    rw [List.filter_beq, h.nodup.count]
    split <;> rfl
  rw [toList, List.filter_filterMap]
  simp only [hvalue]
  rw [← List.filterMap_filter, hkeys]
  by_cases hk : k ∈ t.keys
  · rw [if_pos hk]
    cases hget : t.get? k with
    | none => simp [hget]
    | some v => simp [hget]
  · rw [if_neg hk]
    rw [h.mem_keys_iff, Option.not_isSome_iff_eq_none] at hk
    rw [hk]
    rfl

theorem Keeps.good_of_mem {t : FirstSeen κ α} {good : κ → α → Prop} (h : t.Keeps good)
    {v : α} (hv : v ∈ t.toList) : ∃ k, good k v := by
  obtain ⟨k, -, hk⟩ := List.mem_filterMap.1 hv
  exact ⟨k, h.good k v hk⟩

end FirstSeen

/-- A table of entries under their tokens holds each token once. -/
theorem FirstSeen.Keeps.distinctTokens {t : FirstSeen String Entry}
    {good : String → Entry → Prop} (h : t.Keeps good)
    (htoken : ∀ token e, good token e → e.token = token) : DistinctTokens t.toList := by
  rw [DistinctTokens, h.map_toList Entry.token htoken]
  exact h.nodup

/-! ## Merging -/

/-- What an entry has for its token, and keeps when a later one is merged into
it, all merged entries have. -/
theorem keeps_foldl_mergeEntry {good : String → Entry → Prop} {es : List Entry}
    (hfresh : ∀ e ∈ es, good e.token e)
    (habsorb : ∀ e, ∀ later ∈ es, good later.token e → good later.token (e.absorb later))
    {t : FirstSeen String Entry} (h : t.Keeps good) : (es.foldl mergeEntry t).Keeps good := by
  induction es generalizing t with
  | nil => exact h
  | cons e es ih =>
      refine ih (fun f hf => hfresh f (by simp [hf])) (fun f g hg => habsorb f g (by simp [hg])) ?_
      unfold mergeEntry
      by_cases htoken : e.token = ""
      · rwa [if_pos htoken]
      · rw [if_neg htoken]
        exact h.note (hfresh e (by simp)) fun f hf => habsorb f e (by simp) hf

/-- The table that merging some entries fills. -/
def mergeTable (es : List Entry) : FirstSeen String Entry := es.foldl mergeEntry .empty

theorem merge_eq (es : List Entry) : merge es = (mergeTable es).toList := rfl

/-- Every entry of the table stands under its own token. -/
theorem keeps_mergeTable (es : List Entry) :
    (mergeTable es).Keeps fun token e => e.token = token := by
  refine keeps_foldl_mergeEntry (fun e _ => rfl) ?_ (.empty _)
  intro e later _ htoken
  rw [Entry.token_absorb htoken, htoken]

theorem get?_of_mem_merge {es : List Entry} {e : Entry} (h : e ∈ merge es) :
    (mergeTable es).get? e.token = some e := by
  obtain ⟨token, -, hget⟩ := List.mem_filterMap.1 h
  obtain rfl : e.token = token := (keeps_mergeTable es).good token e hget
  exact hget

/-- Merging leaves one entry for a token. -/
theorem distinctTokens_merge (es : List Entry) : DistinctTokens (merge es) :=
  (keeps_mergeTable es).distinctTokens fun _ _ h => h

/-- What absorbing keeps, merging keeps. -/
theorem forall_mem_merge {good : Entry → Prop}
    (habsorb : ∀ e later, good e → good later → good (e.absorb later)) {es : List Entry}
    (h : ∀ e ∈ es, good e) : ∀ e ∈ merge es, good e := by
  have hkeeps : (es.foldl mergeEntry .empty).Keeps fun _ e => good e :=
    keeps_foldl_mergeEntry h (fun e later hlater he => habsorb e later he (h later hlater))
      (.empty _)
  intro e he
  obtain ⟨-, hgood⟩ := hkeeps.good_of_mem he
  exact hgood

theorem merge_pair {e later : Entry} (h : e.token ≠ "") (htoken : e.token = later.token) :
    merge [e, later] = [e.absorb later] := by
  simp [merge, mergeEntry, FirstSeen.toList, FirstSeen.keys, FirstSeen.empty, FirstSeen.get?,
    FirstSeen.note, h, ← htoken]

/-! ## The first entry for a token -/

theorem keeps_foldl_first (es seen : List Entry) {t : FirstSeen String Entry}
    (h : t.Keeps fun token e => e.token = token ∧ e ∈ seen) :
    (es.foldl (fun t e => t.note e.token e id) t).Keeps
      fun token e => e.token = token ∧ e ∈ seen ++ es := by
  induction es generalizing t seen with
  | nil => simpa using h
  | cons e es ih =>
      have hnote : (t.note e.token e id).Keeps
          fun token f => f.token = token ∧ f ∈ seen ++ [e] := by
        have hmore : t.Keeps fun token f => f.token = token ∧ f ∈ seen ++ [e] :=
          ⟨h.nodup, h.mem_keys_iff, fun k v hv =>
            ⟨(h.good k v hv).1, List.mem_append_left _ (h.good k v hv).2⟩⟩
        exact hmore.note ⟨rfl, by simp⟩ fun v hv => hv
      simpa using ih (seen ++ [e]) hnote

theorem keeps_first (es : List Entry) :
    (es.foldl (fun t e => t.note e.token e id) (.empty : FirstSeen String Entry)).Keeps
      fun token e => e.token = token ∧ e ∈ es :=
  keeps_foldl_first es [] (.empty _)

theorem distinctTokens_firstPerToken (es : List Entry) :
    DistinctTokens (firstPerToken es) := by
  exact (keeps_first es).distinctTokens fun _ _ h => h.1

theorem mem_of_mem_firstPerToken {e : Entry} {es : List Entry} (h : e ∈ firstPerToken es) :
    e ∈ es := by
  obtain ⟨-, -, hmem⟩ := (keeps_first es).good_of_mem h
  exact hmem

/-! ## Shadowed constants -/

/-- The tokens of the keywords among some entries. -/
def keywordTokens (es : List Entry) : List String :=
  (es.filter (·.category == .keyword)).map (·.token)

theorem mem_keywordTokens {token : String} {es : List Entry} :
    token ∈ keywordTokens es ↔ ∃ e ∈ es, e.category = .keyword ∧ e.token = token := by
  simp [keywordTokens, and_assoc]

theorem shadowedConstants_eq (parsed merged : List Entry) :
    shadowedConstants parsed merged = firstPerToken (parsed.filter fun e =>
      e.category == .builtinConstant && (keywordTokens merged).contains e.token) := by
  rw [shadowedConstants]
  simp only [Std.HashSet.contains_ofList, keywordTokens]

theorem distinctTokens_shadowedConstants (parsed merged : List Entry) :
    DistinctTokens (shadowedConstants parsed merged) := by
  rw [shadowedConstants_eq]
  exact distinctTokens_firstPerToken _

/-- A shadowed constant is a parsed one, and a keyword has its token. -/
theorem mem_shadowedConstants {e : Entry} {parsed merged : List Entry}
    (h : e ∈ shadowedConstants parsed merged) :
    e ∈ parsed ∧ e.category = .builtinConstant ∧
      ∃ k ∈ merged, k.category = .keyword ∧ k.token = e.token := by
  rw [shadowedConstants_eq] at h
  obtain ⟨hparsed, htest⟩ := List.mem_filter.1 (mem_of_mem_firstPerToken h)
  rw [Bool.and_eq_true, beq_iff_eq, List.contains_iff_mem, mem_keywordTokens] at htest
  exact ⟨hparsed, htest.1, htest.2⟩

/-- The order of the merged entries is no matter. -/
theorem shadowedConstants_eq_of_perm (parsed : List Entry) {merged merged' : List Entry}
    (h : merged.Perm merged') :
    shadowedConstants parsed merged = shadowedConstants parsed merged' := by
  have htokens : (keywordTokens merged).Perm (keywordTokens merged') := (h.filter _).map _
  rw [shadowedConstants_eq, shadowedConstants_eq]
  congr 1
  apply List.filter_congr
  intro e _
  rw [htokens.contains_eq]

end Glossary
