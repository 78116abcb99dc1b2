import Glossary.Document
import Mathlib.Data.List.Nodup

/-!
# The order of tokens in lists

Tokens are compared by their small-letter forms, and by their exact texts where
these are equal. That is a total order in which only equal tokens tie. So of
entries that have tokens of their own there is only one sorted list, whatever
order they come in, and in it the tokens ascend without a repetition.

## Main results

* `sortEntries_pairwise` — a sorted list ascends.
* `sortEntries_eq_of_perm` — entries with distinct tokens sort to one list.
* `sortEntries_ascending` — and the tokens of that list ascend strictly.
-/

namespace Glossary

/-! ## A total order -/

theorem compareTokens_eq_compareLex :
    compareTokens = compareLex (compareOn fun a => Text.lowercase a.toList)
      (compareOn String.toList) := rfl

instance : Std.TransCmp compareTokens := by
  rw [compareTokens_eq_compareLex]
  infer_instance

instance : Std.LawfulEqCmp compareTokens where
  compare_self := compareTokens_eq_iff.2 rfl
  eq_of_compare := compareTokens_eq_iff.1

/-- An entry may stand before another. -/
def Entry.before (e f : Entry) : Bool := (compareTokens e.token f.token).isLE

theorem Entry.before_trans (e f g : Entry) (hef : e.before f = true)
    (hfg : f.before g = true) : e.before g = true :=
  Std.TransCmp.isLE_trans hef hfg

theorem Entry.before_total (e f : Entry) : (e.before f || f.before e) = true := by
  unfold before
  have hswap : compareTokens e.token f.token = (compareTokens f.token e.token).swap :=
    Std.OrientedCmp.eq_swap
  cases hfe : compareTokens f.token e.token <;> simp [hswap, hfe]

/-- Entries that may stand before each other have one token. -/
theorem Entry.token_eq_of_before {e f : Entry} (hef : e.before f = true)
    (hfe : f.before e = true) : e.token = f.token :=
  compareTokens_eq_iff.1 (Std.OrientedCmp.isLE_antisymm hef hfe)

/-! ## Sorted lists -/

theorem sortEntries_eq (es : List Entry) : sortEntries es = es.mergeSort Entry.before := rfl

theorem sortEntries_perm (es : List Entry) : (sortEntries es).Perm es :=
  List.mergeSort_perm es _

@[simp] theorem mem_sortEntries {e : Entry} {es : List Entry} :
    e ∈ sortEntries es ↔ e ∈ es :=
  (sortEntries_perm es).mem_iff

/-- A sorted list ascends; equal tokens may follow each other. -/
theorem sortEntries_pairwise (es : List Entry) :
    (sortEntries es).Pairwise fun e f => e.before f = true := by
  rw [sortEntries_eq]
  exact List.pairwise_mergeSort Entry.before_trans Entry.before_total es

/-- Every entry has a token of its own. -/
def DistinctTokens (es : List Entry) : Prop := (es.map (·.token)).Nodup

theorem DistinctTokens.perm {es fs : List Entry} (h : DistinctTokens es) (hp : es.Perm fs) :
    DistinctTokens fs :=
  (hp.map _).nodup h

theorem DistinctTokens.eq_of_token_eq {es : List Entry} (h : DistinctTokens es) {e f : Entry}
    (he : e ∈ es) (hf : f ∈ es) (ht : e.token = f.token) : e = f :=
  List.inj_on_of_nodup_map h he hf ht

/-- Entries with distinct tokens sort to one list, whatever order they come in. -/
theorem sortEntries_eq_of_perm {es fs : List Entry} (h : DistinctTokens es)
    (hp : es.Perm fs) : sortEntries es = sortEntries fs := by
  refine List.Perm.eq_of_pairwise ?_ (sortEntries_pairwise es) (sortEntries_pairwise fs) ?_
  · intro e f he hf hef hfe
    rw [mem_sortEntries] at he hf
    exact h.eq_of_token_eq he (hp.mem_iff.2 hf) (Entry.token_eq_of_before hef hfe)
  · exact (sortEntries_perm es).trans (hp.trans (sortEntries_perm fs).symm)

/-- Entries with distinct tokens sort to a list whose tokens ascend strictly. -/
theorem sortEntries_ascending {es : List Entry} (h : DistinctTokens es) :
    (sortEntries es).Pairwise fun e f => compareTokens e.token f.token = .lt := by
  have hdistinct : DistinctTokens (sortEntries es) := h.perm (sortEntries_perm es).symm
  have hne : (sortEntries es).Pairwise fun e f => e.token ≠ f.token :=
    List.pairwise_map.1 hdistinct
  refine ((sortEntries_pairwise es).and hne).imp ?_
  rintro e f ⟨hbefore, htoken⟩
  have hneq : compareTokens e.token f.token ≠ .eq := by
    intro heq
    exact htoken (compareTokens_eq_iff.1 heq)
  unfold Entry.before at hbefore
  cases hcompare : compareTokens e.token f.token with
  | lt => rfl
  | eq => exact absurd hcompare hneq
  | gt => simp [hcompare] at hbefore

end Glossary
