import Mathlib.Data.List.Induction
import Mathlib.Data.List.Nodup

/-!
# Lists without repetitions

`List.eraseDups` keeps the first occurrence of every item. A list grows at its end, so
what is kept grows by the items that have not occurred yet; and if only so many of them
count, it grows until there are enough.

## Main results

* `eraseDups_concat`, `nodup_eraseDups` — what is kept of a list that grows.
* `eraseDups_append_eraseDups`, `eraseDups_eraseDups_append` — repetitions may be left out
  of a part first.
* `take_eraseDups_concat` — the first items that are kept.
-/

namespace Glossary

section EraseDups

variable {α : Type} [DecidableEq α] (l m : List α)

/-- A list without repetitions grows by what has not occurred yet. -/
theorem eraseDups_concat (a : α) :
    (l ++ [a]).eraseDups = if a ∈ l then l.eraseDups else l.eraseDups ++ [a] := by
  rw [List.eraseDups_append]
  by_cases h : a ∈ l
  · simp [List.removeAll, h]
  · simp [List.removeAll, h, List.eraseDups_cons]

theorem nodup_eraseDups : l.eraseDups.Nodup := by
  induction l using List.reverseRecOn with
  | nil => exact .nil
  | append_singleton l a ih =>
      rw [eraseDups_concat]
      by_cases ha : a ∈ l
      · rw [if_pos ha]
        exact ih
      · rw [if_neg ha, ← List.concat_eq_append]
        rw [← List.mem_eraseDups] at ha
        exact ih.concat ha

theorem eraseDups_append_eraseDups : (l ++ m.eraseDups).eraseDups = (l ++ m).eraseDups := by
  induction m using List.reverseRecOn with
  | nil => rfl
  | append_singleton m a ih =>
      rw [eraseDups_concat, ← List.append_assoc, eraseDups_concat]
      by_cases ha : a ∈ m
      · rw [if_pos ha, if_pos (List.mem_append_right l ha), ih]
      · rw [if_neg ha, ← List.append_assoc, eraseDups_concat, ih]
        simp only [List.mem_append, List.mem_eraseDups]

theorem eraseDups_eraseDups_append : (l.eraseDups ++ m).eraseDups = (l ++ m).eraseDups := by
  induction m using List.reverseRecOn with
  | nil =>
      rw [List.append_nil, List.append_nil]
      exact eraseDups_append_eraseDups [] l
  | append_singleton m a ih =>
      rw [← List.append_assoc, ← List.append_assoc, eraseDups_concat, eraseDups_concat, ih]
      simp only [List.mem_append, List.mem_eraseDups]

/-- The first `n` items without repetitions grow by a new item until there are `n`. -/
theorem take_eraseDups_concat (n : Nat) (a : α) :
    (l ++ [a]).eraseDups.take n =
      if a ∈ l.eraseDups.take n ∨ n ≤ (l.eraseDups.take n).length then l.eraseDups.take n
      else l.eraseDups.take n ++ [a] := by
  rw [eraseDups_concat, List.length_take]
  by_cases hfew : l.eraseDups.length < n
  · rw [List.take_of_length_le (Nat.le_of_lt hfew)]
    by_cases ha : a ∈ l
    · rw [if_pos ha, if_pos (.inl (List.mem_eraseDups.2 ha)),
        List.take_of_length_le (Nat.le_of_lt hfew)]
    · have hneither : ¬ (a ∈ l.eraseDups ∨ n ≤ min n l.eraseDups.length) := by
        rintro (hmem | hle)
        · exact ha (List.mem_eraseDups.1 hmem)
        · omega
      have hlength : (l.eraseDups ++ [a]).length ≤ n := by
        rw [List.length_append, List.length_singleton]
        omega
      rw [if_neg ha, if_neg hneither, List.take_of_length_le hlength]
  · have hle : n ≤ l.eraseDups.length := Nat.le_of_not_lt hfew
    have henough : n ≤ min n l.eraseDups.length := by omega
    by_cases ha : a ∈ l
    · rw [if_pos ha, if_pos (.inr henough)]
    · rw [if_neg ha, if_pos (.inr henough), List.take_append_of_le_length hle]

end EraseDups

end Glossary
