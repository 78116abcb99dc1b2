/-!
# Halving search

`partitionPoint p n` finds where a test on `0, …, n - 1` that holds on a first part and fails on
the rest turns from true to false, with about `log₂ n` questions.

## Main results

* `partitionPoint_le` — the answer is at most `n`.
* `lt_partitionPoint_iff` — on such a test, the indices before the answer are those that pass.
-/

namespace Glossary.Search

/-- Narrows a window of `size` indices from `base` on down to one index. -/
def narrow (p : Nat → Bool) (base size : Nat) : Nat :=
  if 1 < size then
    if p (base + size / 2) then narrow p (base + size / 2) (size - size / 2)
    else narrow p base (size - size / 2)
  else base
termination_by size

/-- Number of indices below `n` in the first part, where `p` holds. -/
def partitionPoint (p : Nat → Bool) (n : Nat) : Nat :=
  if n = 0 then 0
  else
    let last := narrow p 0 n
    if p last then last + 1 else last

/-- The test never turns back from false to true. -/
def Descending (p : Nat → Bool) : Prop := ∀ i j, i ≤ j → p j = true → p i = true

theorem narrow_lt (p : Nat → Bool) (base size : Nat) (h : 0 < size) :
    narrow p base size < base + size := by
  fun_induction narrow p base size with
  | case1 base size hs hp ih =>
      have := ih (by omega)
      omega
  | case2 base size hs hp ih =>
      have := ih (by omega)
      omega
  | case3 => omega

theorem partitionPoint_le (p : Nat → Bool) (n : Nat) : partitionPoint p n ≤ n := by
  unfold partitionPoint
  split
  · omega
  · have := narrow_lt p 0 n (by omega)
    simp only
    split <;> omega

/-- The window keeps every turning point: what passes behind it is never needed, and what passes
in it stays at or before the answer. -/
theorem narrow_spec {p : Nat → Bool} (hp : Descending p) (base size : Nat) (hs : 0 < size) :
    (∀ i, narrow p base size < i → i < base + size → p i = false) ∧
      (∀ i, base < i → i ≤ narrow p base size → p i = true) := by
  fun_induction narrow p base size with
  | case1 base size h hmid ih =>
      obtain ⟨above, below⟩ := ih (by omega)
      refine ⟨fun i h1 h2 => above i h1 (by omega), fun i h1 h2 => ?_⟩
      rcases Nat.lt_or_ge (base + size / 2) i with hlt | hge
      · exact below i hlt h2
      · exact hp _ _ hge hmid
  | case2 base size h hmid ih =>
      obtain ⟨above, below⟩ := ih (by omega)
      refine ⟨fun i h1 h2 => ?_, below⟩
      rcases Nat.lt_or_ge i (base + (size - size / 2)) with hlt | hge
      · exact above i h1 hlt
      · exact Bool.eq_false_iff.2 fun hpi => hmid (hp _ _ (by omega) hpi)
  | case3 base size h => exact ⟨fun i _ _ => by omega, fun i _ _ => by omega⟩

theorem lt_partitionPoint_iff {p : Nat → Bool} (hp : Descending p) {n i : Nat} (hi : i < n) :
    i < partitionPoint p n ↔ p i = true := by
  have hn : 0 < n := by omega
  obtain ⟨above, below⟩ := narrow_spec hp 0 n hn
  have hlt := narrow_lt p 0 n hn
  unfold partitionPoint
  rw [if_neg (by omega)]
  simp only
  cases hlast : p (narrow p 0 n) with
  | true =>
      refine ⟨fun h => hp _ _ (by simp at h; omega) hlast, fun h => ?_⟩
      rcases Nat.lt_or_ge (narrow p 0 n) i with hgt | hle
      · simp [above i hgt (by omega)] at h
      · simp; omega
  | false =>
      refine ⟨fun h => ?_, fun h => ?_⟩
      · simp only [Bool.false_eq_true, if_false] at h
        exact absurd (below _ (by omega) (Nat.le_refl _)) (by simp [hlast])
      · rcases Nat.lt_or_ge i (narrow p 0 n) with hlt' | hge
        · simpa using hlt'
        · rcases Nat.lt_or_ge (narrow p 0 n) i with hgt | hle
          · simp [above i hgt (by omega)] at h
          · obtain rfl : i = narrow p 0 n := by omega
            simp [hlast] at h

end Glossary.Search
