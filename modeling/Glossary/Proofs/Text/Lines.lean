import Glossary.Text.Blank
import Glossary.Text.Lines
import Mathlib.Data.List.Basic
import Mathlib.Data.List.TakeWhile

/-!
# Pieces, lines and trimmed texts

A text falls into pieces at its newlines, and none of the pieces has a newline.
So pieces can be joined and cut again without a change, and a text that ends
each of its lines with a newline has exactly these lines, where a carriage
return at the end of a line is lost.

A run of characters, or of lines, goes on up to the first that stops it. What
stops a run adds nothing to it.

## Main results

* `pieces_cases` — a text is its only piece, or ends its first one at a newline.
* `pieces_append_pieces` — a newline between two texts cuts them apart.
* `pieces_joined` — joined lines are cut where they were joined.
* `length_pieces` — the number of pieces.
* `lines_ended` — the lines of a text that ends every line.
* `exists_run`, `run_eq`, `run_append` — where a run ends.
-/

namespace Glossary.Text

/-! ## Runs -/

section Runs

variable {α : Type} {p : α → Bool}

theorem takeWhile_of_stop {t : List α} (h : ∀ a, t.head? = some a → p a = false) :
    t.takeWhile p = [] := by
  cases t with
  | nil => rfl
  | cons a t => simp [h a rfl]

theorem dropWhile_of_stop {t : List α} (h : ∀ a, t.head? = some a → p a = false) :
    t.dropWhile p = t := by
  cases t with
  | nil => rfl
  | cons a t => simp [h a rfl]

theorem takeWhile_append_of_stop (s : List α) {t : List α}
    (h : ∀ a, t.head? = some a → p a = false) : (s ++ t).takeWhile p = s.takeWhile p := by
  rw [List.takeWhile_append, takeWhile_of_stop h, List.append_nil]
  split
  · next hlength => rw [(List.takeWhile_prefix p).eq_of_length hlength]
  · rfl

theorem dropWhile_append_of_stop (s : List α) {t : List α}
    (h : ∀ a, t.head? = some a → p a = false) :
    (s ++ t).dropWhile p = s.dropWhile p ++ t := by
  rw [List.dropWhile_append, dropWhile_of_stop h]
  split
  · next hempty => rw [List.isEmpty_iff.1 hempty, List.nil_append]
  · rfl

/-- A run that ends inside a list, or at the end of it if what follows stops the run,
ends there whatever follows. -/
theorem run_append {s t : List α}
    (h : s.dropWhile p = [] → ∀ a, t.head? = some a → p a = false) :
    (s ++ t).takeWhile p = s.takeWhile p ∧ (s ++ t).dropWhile p = s.dropWhile p ++ t := by
  by_cases hend : s.dropWhile p = []
  · exact ⟨takeWhile_append_of_stop s (h hend), dropWhile_append_of_stop s (h hend)⟩
  · have hdrop : (s ++ t).dropWhile p = s.dropWhile p ++ t := by
      rw [List.dropWhile_append, if_neg (by simpa using hend)]
    refine ⟨?_, hdrop⟩
    have hall := List.takeWhile_append_dropWhile (l := s ++ t) (p := p)
    rw [hdrop, ← List.append_assoc, List.append_left_inj] at hall
    exact List.append_cancel_right
      (hall.trans (List.takeWhile_append_dropWhile (l := s) (p := p)).symm)

/-- A list is a run and what stops it. -/
theorem exists_run (p : α → Bool) (l : List α) : ∃ s t, l = s ++ t ∧ (∀ a ∈ s, p a = true) ∧
    ∀ a, t.head? = some a → p a = false := by
  refine ⟨l.takeWhile p, l.dropWhile p, List.takeWhile_append_dropWhile.symm,
    fun a => List.mem_takeWhile_imp, ?_⟩
  intro a ha
  have hhead := List.head?_dropWhile_not p l
  rw [ha] at hhead
  exact hhead

/-- A run goes on up to what stops it. -/
theorem run_eq {s t : List α} (hs : ∀ a ∈ s, p a = true)
    (ht : ∀ a, t.head? = some a → p a = false) :
    (s ++ t).takeWhile p = s ∧ (s ++ t).dropWhile p = t := by
  refine ⟨?_, ?_⟩
  · rw [takeWhile_append_of_stop s ht, List.takeWhile_eq_self_iff.2 hs]
  · rw [dropWhile_append_of_stop s ht, List.dropWhile_eq_nil_iff.2 hs, List.nil_append]

/-- So only one run of a class stands at the start of a list. -/
theorem append_eq_append_of_stop {s t r r' : List α} (hs : ∀ a ∈ s, p a = true)
    (ht : ∀ a ∈ t, p a = true) (hr : ∀ a, r.head? = some a → p a = false)
    (hr' : ∀ a, r'.head? = some a → p a = false) (h : s ++ r = t ++ r') : s = t ∧ r = r' := by
  have hleft := run_eq hs hr
  rw [h] at hleft
  have hright := run_eq ht hr'
  exact ⟨hleft.1.symm.trans hright.1, hleft.2.symm.trans hright.2⟩

/-- A list stays as it is when none of its items is changed. -/
theorem map_eq_self {f : α → α} {l : List α} (h : ∀ a ∈ l, f a = a) : l.map f = l :=
  (List.map_congr_left h).trans (List.map_id l)

end Runs

/-! ## Trimmed texts -/

theorem trimStart_cons_of_blank {c : Char} (h : isBlank c = true) (s : List Char) :
    trimStart (c :: s) = trimStart s :=
  List.dropWhile_cons_of_pos h

/-- Where nothing is trimmed at the end, the text does not end in a blank. -/
theorem isBlank_getLast_of_trimEnd {s : List Char} (h : trimEnd s = s) {c : Char}
    (hc : s.getLast? = some c) : isBlank c = false := by
  rw [trimEnd, List.reverse_eq_iff] at h
  rw [← List.head?_reverse] at hc
  cases hs : s.reverse with
  | nil => simp [hs] at hc
  | cons d t =>
      rw [hs, List.head?_cons, Option.some.injEq] at hc
      subst hc
      by_contra hblank
      rw [Bool.not_eq_false] at hblank
      rw [hs, List.dropWhile_cons_of_pos hblank] at h
      have hlength := (List.dropWhile_suffix (l := t) isBlank).length_le
      rw [h, List.length_cons] at hlength
      omega

/-! ## Pieces of a text -/

/-- A text is its only piece, or its first piece ends at its first newline. -/
theorem pieces_cases (s : List Char) :
    ('\n' ∉ s ∧ pieces s = [s]) ∨
      ∃ p rest, s = p ++ '\n' :: rest ∧ '\n' ∉ p ∧ pieces s = p :: pieces rest := by
  by_cases h : '\n' ∈ s
  · right
    obtain ⟨p, rest, rfl, hp⟩ := List.eq_append_cons_of_mem h
    exact ⟨p, rest, rfl, hp, List.splitOn_append_cons_self_of_not_mem hp rest⟩
  · left
    exact ⟨h, List.splitOn_eq_singleton h⟩

/-- Induction on the pieces of a text, from the last one on. -/
theorem pieces_induction {motive : List Char → Prop} (last : ∀ s, '\n' ∉ s → motive s)
    (cut : ∀ p rest, '\n' ∉ p → motive rest → motive (p ++ '\n' :: rest))
    (s : List Char) : motive s := by
  rcases pieces_cases s with ⟨h, -⟩ | ⟨p, rest, rfl, hp, -⟩
  · exact last s h
  · exact cut p rest hp (pieces_induction last cut rest)
termination_by s.length
decreasing_by simp_all; omega

@[simp] theorem pieces_of_not_mem {s : List Char} (h : '\n' ∉ s) : pieces s = [s] :=
  List.splitOn_eq_singleton h

@[simp] theorem pieces_append_newline {p : List Char} (h : '\n' ∉ p) (rest : List Char) :
    pieces (p ++ '\n' :: rest) = p :: pieces rest :=
  List.splitOn_append_cons_self_of_not_mem h rest

theorem newline_not_mem_of_mem_pieces {s l : List Char} (h : l ∈ pieces s) : '\n' ∉ l := by
  induction s using pieces_induction with
  | last s hs =>
      rw [pieces_of_not_mem hs, List.mem_singleton] at h
      rw [h]
      exact hs
  | cut p rest hp ih =>
      rw [pieces_append_newline hp, List.mem_cons] at h
      rcases h with rfl | h
      · exact hp
      · exact ih h

/-- There is one piece more than there are newlines. -/
theorem length_pieces (s : List Char) : (pieces s).length = s.count '\n' + 1 := by
  induction s using pieces_induction with
  | last s hs => rw [pieces_of_not_mem hs, List.count_eq_zero_of_not_mem hs, List.length_singleton]
  | cut p rest hp ih =>
      rw [pieces_append_newline hp, List.length_cons, ih, List.count_append,
        List.count_eq_zero_of_not_mem hp, List.count_cons_self, Nat.zero_add]

theorem exists_pieces_eq_cons (s : List Char) : ∃ first more, pieces s = first :: more := by
  rcases pieces_cases s with ⟨-, hs⟩ | ⟨p, rest, -, -, hs⟩
  · exact ⟨s, [], hs⟩
  · exact ⟨p, pieces rest, hs⟩

/-- What stands in front of a text without a newline belongs to its first piece. -/
theorem pieces_append {p s first : List Char} {more : List (List Char)} (hp : '\n' ∉ p)
    (hs : pieces s = first :: more) : pieces (p ++ s) = (p ++ first) :: more := by
  rcases pieces_cases s with ⟨hnot, honly⟩ | ⟨q, rest, rfl, hq, hcut⟩
  · obtain ⟨rfl, rfl⟩ := List.cons.inj (hs.symm.trans honly)
    exact pieces_of_not_mem (by simp [hp, hnot])
  · obtain ⟨rfl, rfl⟩ := List.cons.inj (hs.symm.trans hcut)
    rw [← List.append_assoc]
    exact pieces_append_newline (by simp [hp, hq]) rest

/-- A newline between two texts cuts them apart. -/
theorem pieces_append_pieces (s t : List Char) :
    pieces (s ++ '\n' :: t) = pieces s ++ pieces t := by
  induction s using pieces_induction with
  | last s hs => rw [pieces_append_newline hs, pieces_of_not_mem hs, List.singleton_append]
  | cut p rest hp ih =>
      rw [List.append_assoc, List.cons_append, pieces_append_newline hp, ih,
        pieces_append_newline hp, List.cons_append]

/-- Lines that are joined are cut where they were joined. -/
theorem pieces_joined {ls : List (List Char)} (hne : ls ≠ []) (h : ∀ l ∈ ls, '\n' ∉ l) :
    pieces (['\n'].intercalate ls) = ls :=
  List.splitOn_intercalate '\n' h hne

/-! ## Lines of a text -/

theorem pieces_ended {ls : List (List Char)} (h : ∀ l ∈ ls, '\n' ∉ l) :
    pieces (ls.flatMap (· ++ ['\n'])) = ls ++ [[]] := by
  induction ls with
  | nil => rfl
  | cons l ls ih =>
      rw [List.flatMap_cons, List.append_assoc, List.singleton_append,
        pieces_append_newline (h l (by simp)), ih fun k hk => h k (List.mem_cons_of_mem _ hk)]
      rfl

/-- A text that ends every line with a newline has these lines. -/
theorem lines_ended {ls : List (List Char)} (h : ∀ l ∈ ls, '\n' ∉ l) :
    lines (ls.flatMap (· ++ ['\n'])) = ls.map dropReturn := by
  simp [lines, pieces_ended h]

/-- Where the last line does not end in a newline, it is a line as it stands. -/
theorem lines_of_pieces {s last : List Char} {ls : List (List Char)}
    (h : pieces s = ls ++ [last]) (hne : last ≠ []) : lines s = ls.map dropReturn ++ [last] := by
  cases last with
  | nil => exact absurd rfl hne
  | cons c last => simp [lines, h]

theorem newline_not_mem_dropReturn {l : List Char} (h : '\n' ∉ l) : '\n' ∉ dropReturn l := by
  rw [dropReturn]
  split
  · intro hmem
    exact h (List.dropLast_subset l hmem)
  · exact h

theorem newline_not_mem_of_mem_lines {s l : List Char} (h : l ∈ lines s) : '\n' ∉ l := by
  have hended : ∀ k ∈ (pieces s).dropLast.map dropReturn, '\n' ∉ k := by
    intro k hk
    obtain ⟨piece, hpiece, rfl⟩ := List.mem_map.1 hk
    exact newline_not_mem_dropReturn
      (newline_not_mem_of_mem_pieces (List.dropLast_subset _ hpiece))
  dsimp only [lines] at h
  split at h
  · exact hended l h
  · exact hended l h
  · next last hne hlast =>
      rcases List.mem_append.1 h with h | h
      · exact hended l h
      · obtain rfl := List.mem_singleton.1 h
        exact newline_not_mem_of_mem_pieces (List.mem_of_getLast? hlast)

/-- Lines can be written so that a carriage return at the end of one is kept. -/
theorem exists_lines {ls : List (List Char)} (h : ∀ l ∈ ls, '\n' ∉ l) :
    ∃ s, lines s = ls := by
  refine ⟨(ls.map (· ++ ['\r'])).flatMap (· ++ ['\n']), ?_⟩
  rw [lines_ended, List.map_map]
  · exact map_eq_self fun l _ => by simp [dropReturn]
  · intro l hl
    obtain ⟨k, hk, rfl⟩ := List.mem_map.1 hl
    simp [h k hk]

theorem dropReturn_eq_self_iff {l : List Char} :
    dropReturn l = l ↔ l.getLast? ≠ some '\r' := by
  rw [dropReturn]
  constructor
  · intro h hlast
    rw [if_pos hlast] at h
    have hlength := congrArg List.length h
    rw [List.length_dropLast] at hlength
    have hne : l ≠ [] := by
      rintro rfl
      cases hlast
    have hpos := List.length_pos_iff.2 hne
    omega
  · intro hlast
    rw [if_neg hlast]

/-- What a text opens with, it opens with when it has no carriage return at its end. -/
theorem opensWith_of_dropReturn {opening l : List Char} (hne : opening ≠ [])
    (h : opensWith opening (dropReturn l) = true) : opensWith opening l = true := by
  rw [dropReturn] at h
  split at h
  · next hlast =>
      rw [opensWith, List.isPrefixOf_iff_prefix] at h ⊢
      have hsplit : l = l.dropLast ++ ['\r'] := (List.dropLast_append_getLast? '\r' hlast).symm
      -- a line that is blank without the carriage return opens with nothing
      have hsolid : l.dropLast.dropWhile isBlank ≠ [] := by
        intro hblank
        rw [trimStart, hblank, List.prefix_nil] at h
        exact hne h
      rw [hsplit, trimStart, List.dropWhile_append, if_neg (by simpa using hsolid)]
      exact h.trans (List.prefix_append _ _)
  · exact h

end Glossary.Text
