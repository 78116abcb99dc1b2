/-!
# Fragments of a text

Beginnings of a text and occurrences anywhere in it.

## Main results

* `dropPrefix?_eq_some_iff` — what is left behind a beginning.
* `contains_iff` — a text contains another when it can be cut around it.
-/

namespace Glossary.Text

/-- What follows a given beginning, when the text has it. -/
def dropPrefix? : List Char → List Char → Option (List Char)
  | [], s => some s
  | _ :: _, [] => none
  | p :: ps, c :: cs => if p = c then dropPrefix? ps cs else none

theorem dropPrefix?_eq_some_iff {p s r : List Char} : dropPrefix? p s = some r ↔ s = p ++ r := by
  fun_induction dropPrefix? p s with
  | case1 s => simp [eq_comm]
  | case2 => simp
  | case3 ps c cs ih => simp [ih]
  | case4 p ps c cs h => simp [Ne.symm h]

/-- Whether a text has the other somewhere in it. -/
def contains (part : List Char) : List Char → Bool
  | [] => part.isEmpty
  | c :: cs => part.isPrefixOf (c :: cs) || contains part cs

theorem contains_iff {part s : List Char} :
    contains part s = true ↔ ∃ before after, s = before ++ part ++ after := by
  induction s with
  | nil =>
      simp only [contains, List.isEmpty_iff, List.nil_eq, List.append_eq_nil_iff]
      constructor
      · rintro rfl
        exact ⟨[], [], by simp⟩
      · rintro ⟨before, after, ⟨-, h⟩, -⟩
        exact h
  | cons c cs ih =>
      simp only [contains, Bool.or_eq_true, List.isPrefixOf_iff_prefix, ih]
      constructor
      · rintro (⟨after, h⟩ | ⟨before, after, h⟩)
        · exact ⟨[], after, by simpa using h.symm⟩
        · exact ⟨c :: before, after, by simp [h]⟩
      · rintro ⟨before, after, h⟩
        cases before with
        | nil => exact .inl ⟨after, by simpa using h.symm⟩
        | cons b bs =>
            simp only [List.cons_append, List.cons.injEq] at h
            exact .inr ⟨bs, after, h.2⟩

end Glossary.Text
