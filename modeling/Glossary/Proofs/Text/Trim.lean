import Glossary.Proofs.Text.Lines
import Mathlib.Data.List.DropRight

/-!
# Trimmed texts

Trimming the end of a text takes blanks away and nothing else, and what is left
does not end in a blank. A text that neither begins nor ends in a blank is its own
trimmed form, and whether its start or its end is trimmed first is no matter.

## Main results

* `exists_trimEnd` — what is trimmed from the end is blank.
* `trim_eq_self` — which texts are trimmed.
* `trimStart_trimEnd` — both ends are trimmed independently.
* `length_dropReturns_le_iff` — how much of a line its last carriage returns leave.
-/

namespace Glossary.Text

theorem exists_trimEnd (s : List Char) :
    ∃ blanks, s = trimEnd s ++ blanks ∧ ∀ c ∈ blanks, isBlank c = true := by
  refine ⟨(s.reverse.takeWhile isBlank).reverse, ?_, ?_⟩
  · rw [trimEnd, ← List.reverse_append, List.takeWhile_append_dropWhile, List.reverse_reverse]
  · intro c hc
    exact List.mem_takeWhile_imp (List.mem_reverse.1 hc)

theorem trimEnd_append_blanks (s : List Char) {blanks : List Char}
    (h : ∀ c ∈ blanks, isBlank c = true) : trimEnd (s ++ blanks) = trimEnd s := by
  rw [trimEnd, List.reverse_append, List.dropWhile_append_of_pos, trimEnd]
  intro c hc
  exact h c (List.mem_reverse.1 hc)

/-- What is left does not end in a blank. -/
theorem isBlank_getLast_trimEnd {s : List Char} {c : Char} (h : (trimEnd s).getLast? = some c) :
    isBlank c = false := by
  have hhead := List.head?_dropWhile_not isBlank s.reverse
  rw [trimEnd, List.getLast?_reverse] at h
  rw [h] at hhead
  simpa using hhead

theorem isBlank_head_trimStart {s : List Char} {c : Char} (h : (trimStart s).head? = some c) :
    isBlank c = false := by
  have hhead := List.head?_dropWhile_not isBlank s
  rw [trimStart] at h
  rw [h] at hhead
  simpa using hhead

theorem trimStart_eq_self_of_head {s : List Char}
    (h : ∀ c, s.head? = some c → isBlank c = false) : trimStart s = s :=
  dropWhile_of_stop h

theorem trimEnd_eq_self_of_getLast {s : List Char}
    (h : ∀ c, s.getLast? = some c → isBlank c = false) : trimEnd s = s := by
  rw [trimEnd, dropWhile_of_stop, List.reverse_reverse]
  intro c hc
  rw [List.head?_reverse] at hc
  exact h c hc

/-- A text that neither begins nor ends in a blank is trimmed. -/
theorem trim_eq_self {s : List Char} (hhead : ∀ c, s.head? = some c → isBlank c = false)
    (hlast : ∀ c, s.getLast? = some c → isBlank c = false) : trim s = s := by
  rw [trim, trimStart_eq_self_of_head hhead, trimEnd_eq_self_of_getLast hlast]

/-- Both ends are trimmed independently. -/
theorem trimStart_trimEnd (s : List Char) : trimStart (trimEnd s) = trimEnd (trimStart s) := by
  obtain ⟨blanks, hs, hblanks⟩ := exists_trimEnd s
  have hsolid : ∀ c, (trimStart (trimEnd s)).getLast? = some c → isBlank c = false := by
    intro c hc
    obtain ⟨lead, hlead⟩ := List.dropWhile_suffix (l := trimEnd s) isBlank
    apply isBlank_getLast_trimEnd (s := s)
    rw [← hlead, List.getLast?_append]
    rw [trimStart] at hc
    rw [hc]
    rfl
  have hstart : trimEnd (trimStart (trimEnd s ++ blanks)) =
      trimEnd (trimStart (trimEnd s)) := by
    rw [trimStart, List.dropWhile_append]
    split
    · next hempty =>
        rw [List.dropWhile_eq_nil_iff.2 hblanks, trimStart, List.isEmpty_iff.1 hempty]
    · exact trimEnd_append_blanks _ hblanks
  rw [← hs, trimEnd_eq_self_of_getLast hsolid] at hstart
  exact hstart.symm

theorem isBlank_head_trim {s : List Char} {c : Char} (h : (trim s).head? = some c) :
    isBlank c = false := by
  rw [trim, ← trimStart_trimEnd] at h
  exact isBlank_head_trimStart h

theorem trim_trim (s : List Char) : trim (trim s) = trim s :=
  trim_eq_self (fun _ => isBlank_head_trim) fun _ => isBlank_getLast_trimEnd

theorem trimEnd_of_trim {s : List Char} (h : trim s = s) : trimEnd s = s := by
  apply trimEnd_eq_self_of_getLast
  intro c hc
  rw [← h] at hc
  exact isBlank_getLast_trimEnd hc

theorem mem_of_mem_trimEnd {s : List Char} {c : Char} (h : c ∈ trimEnd s) : c ∈ s := by
  obtain ⟨blanks, hs, -⟩ := exists_trimEnd s
  rw [hs]
  exact List.mem_append_left _ h

theorem mem_of_mem_trim {s : List Char} {c : Char} (h : c ∈ trim s) : c ∈ s :=
  (List.dropWhile_suffix isBlank).subset (mem_of_mem_trimEnd h)

theorem allBlank_trimEnd (s : List Char) : allBlank (trimEnd s) = allBlank s := by
  obtain ⟨blanks, hs, hblanks⟩ := exists_trimEnd s
  have hall : allBlank (trimEnd s ++ blanks) = allBlank (trimEnd s) := by
    simp [allBlank, List.all_eq_true.2 hblanks]
  rw [← hs] at hall
  exact hall.symm

/-- A text that is not blank leaves something when it is trimmed. -/
theorem trim_ne_nil {s : List Char} (h : allBlank s = false) : trim s ≠ [] := by
  intro hnil
  have hstart : trimStart (trimEnd s) = [] := by
    rw [trimStart_trimEnd]
    exact hnil
  rw [trimStart, List.dropWhile_eq_nil_iff] at hstart
  rw [← allBlank_trimEnd, allBlank, List.all_eq_true.2 hstart] at h
  cases h

/-! ## Carriage returns at the end of a line -/

/-- What is dropped from the end of a line. -/
def lastReturns (line : List Char) : List Char := line.rtakeWhile (· == '\r')

theorem dropReturns_append_lastReturns (line : List Char) :
    dropReturns line ++ lastReturns line = line :=
  List.rdropWhile_append_rtakeWhile

/-- A line is kept up to a place at most if nothing but carriage returns comes behind it. -/
theorem length_dropReturns_le_iff {line : List Char} {k : Nat} :
    (dropReturns line).length ≤ k ↔ ∀ c ∈ line.drop k, c = '\r' := by
  have hdrop : line.drop k = (dropReturns line).drop k ++
      (lastReturns line).drop (k - (dropReturns line).length) := by
    rw [← List.drop_append, dropReturns_append_lastReturns]
  rw [hdrop]
  constructor
  · intro hle c hc
    rw [List.drop_eq_nil_of_le hle, List.nil_append] at hc
    have hreturn := List.mem_rtakeWhile_imp (List.mem_of_mem_drop hc)
    exact beq_iff_eq.1 hreturn
  · intro hall
    by_contra hlt
    have hrest : (dropReturns line).drop k ≠ [] := by
      rw [Ne, List.drop_eq_nil_iff]
      exact hlt
    have hne : dropReturns line ≠ [] := fun hnil => hrest (by rw [hnil, List.drop_nil])
    -- the last character that is kept would be a carriage return
    have hlast : (dropReturns line).getLast hne ≠ '\r' := fun heq =>
      List.rdropWhile_last_not (· == '\r') line hne (beq_iff_eq.2 heq)
    have hmem := List.getLast_mem hrest
    rw [List.getLast_drop] at hmem
    exact hlast (hall _ (List.mem_append_left _ hmem))

end Glossary.Text
