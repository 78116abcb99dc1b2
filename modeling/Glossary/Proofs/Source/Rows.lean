import Glossary.Source.Search

/-!
# Halving search over rows

The lookups in a table ask for the first row that fails a test. When the rows
that pass come before those that do not, halving finds it. It is enough to
compare two rows at a time, which is what tables in order give.

## Main results

* `Search.lt_partitionPoint_any_iff` — the rows before the answer are those
  that pass.
-/

namespace Glossary.Search

variable {α : Type} {rows : Array α}

/-- Two rows of a table whose rows are related in order. -/
theorem rel_of_getElem? {rel : α → α → Prop} (h : rows.toList.Pairwise rel) {i j : Nat}
    {x y : α} (hij : i < j) (hx : rows[i]? = some x) (hy : rows[j]? = some y) : rel x y := by
  rw [← Array.getElem?_toList, List.getElem?_eq_some_iff] at hx hy
  obtain ⟨hi, rfl⟩ := hx
  obtain ⟨hj, rfl⟩ := hy
  exact List.pairwise_iff_getElem.1 h i j hi hj hij

/-- Rows that pass come before those that do not. -/
def PassFirst (rows : Array α) (test : α → Bool) : Prop :=
  rows.toList.Pairwise fun x y => test y = true → test x = true

theorem PassFirst.descending {test : α → Bool} (h : PassFirst rows test) :
    Descending fun i => rows[i]?.any test := by
  intro i j hij hj
  rcases Nat.eq_or_lt_of_le hij with rfl | hlt
  · exact hj
  · show rows[i]?.any test = true
    cases hy : rows[j]? with
    | none => simp [hy] at hj
    | some y =>
        have hjsize : j < rows.size := (Array.getElem?_eq_some_iff.1 hy).1
        have hx : rows[i]? = some rows[i] := Array.getElem?_eq_getElem (by omega)
        have hpass : test y = true := by simpa [hy] using hj
        rw [hx]
        exact rel_of_getElem? h hlt hx hy hpass

/-- The rows before the answer are those that pass. -/
theorem lt_partitionPoint_any_iff {test : α → Bool} (h : PassFirst rows test) {i : Nat} {x : α}
    (hx : rows[i]? = some x) :
    i < partitionPoint (fun i => rows[i]?.any test) rows.size ↔ test x = true := by
  have hi : i < rows.size := (Array.getElem?_eq_some_iff.1 hx).1
  rw [lt_partitionPoint_iff h.descending hi, hx]
  rfl

end Glossary.Search
