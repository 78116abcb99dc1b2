import Glossary.Proofs.Source.LineTable

/-!
# Positions found by walking

There are two ways to the position of an offset: to look it up in the table of the
lines, and to walk over the characters before it, one step for each. Both lead to
the same place. Every step goes forward, so positions come in the order of their
offsets; and a character adds to the line or to the column, never to both, so the
positions of a text with fewer than `UInt32.size - 1` characters fit into 32 bits.

The look-up searches for the offset among the starts of the lines. What such a
search may answer is said without saying how it searches: the line that starts
there, or else the place that such a line would have to take. There is always one
answer only, it is never the place in front of all lines, and what it leads to is
the line that holds the offset.

## Main results

* `Position.before_advanceAll` — a walk leads forward.
* `SourceMap.position_eq_advanceAll` — the table and the walk agree.
* `SourceMap.sought_iff` — what a search among the starts of the lines answers.
* `SourceMap.position_walks` — all of this for every offset of a text.
-/

namespace Glossary

/-! ## Walks -/

namespace Position

theorem advance_newline (p : Position) :
    p.advance '\n' = ⟨p.offset + 1, p.line + 1, 1⟩ := if_pos rfl

theorem advance_of_ne (p : Position) {c : Char} (hc : c ≠ '\n') :
    p.advance c = ⟨p.offset + 1, p.line, p.column + 1⟩ := if_neg hc

theorem advanceAll_cons (p : Position) (c : Char) (s : List Char) :
    p.advanceAll (c :: s) = (p.advance c).advanceAll s := rfl

theorem offset_advanceAll (p : Position) (s : List Char) :
    (p.advanceAll s).offset = p.offset + s.length := by
  induction s generalizing p with
  | nil => rfl
  | cons c s ih =>
      rw [advanceAll_cons, ih, offset_advance, List.length_cons]
      omega

theorem line_advanceAll (p : Position) (s : List Char) :
    (p.advanceAll s).line = p.line + s.count '\n' := by
  induction s generalizing p with
  | nil => rfl
  | cons c s ih =>
      rw [advanceAll_cons, ih]
      by_cases hc : c = '\n'
      · rw [hc, advance_newline, List.count_cons_self]
        show p.line + 1 + s.count '\n' = p.line + (s.count '\n' + 1)
        omega
      · rw [advance_of_ne p hc, List.count_cons_of_ne hc]

/-- A walk without newlines stays on its line. -/
theorem advanceAll_of_not_mem {p : Position} {s : List Char} (h : '\n' ∉ s) :
    p.advanceAll s = ⟨p.offset + s.length, p.line, p.column + s.length⟩ := by
  induction s generalizing p with
  | nil => rfl
  | cons c s ih =>
      have hc : c ≠ '\n' := fun heq => h (by simp [heq])
      have hs : '\n' ∉ s := fun hmem => h (List.mem_cons_of_mem c hmem)
      rw [advanceAll_cons, ih hs, advance_of_ne p hc, List.length_cons]
      simp only [mk.injEq, true_and]
      omega

/-- A walk that ends where a line begins. -/
theorem advanceAll_of_opens {s : List Char} (h : s = [] ∨ s.getLast? = some '\n') :
    first.advanceAll s = ⟨s.length, s.count '\n' + 1, 1⟩ := by
  have hcolumn : (first.advanceAll s).column = 1 := by
    rcases h with rfl | hlast
    · rfl
    · obtain ⟨t, rfl⟩ := List.getLast?_eq_some_iff.1 hlast
      rw [advanceAll_append]
      rfl
  have hoffset := offset_advanceAll first s
  have hline := line_advanceAll first s
  rw [show first.offset = 0 from rfl, Nat.zero_add] at hoffset
  rw [show first.line = 1 from rfl, Nat.add_comm] at hline
  rw [← hoffset, ← hline, ← hcolumn]

/-- No walk gains more lines and columns than it has steps. -/
theorem advanceAll_le (p : Position) (s : List Char) (hcolumn : 1 ≤ p.column) :
    (p.advanceAll s).line ≤ p.line + s.length ∧ (p.advanceAll s).column ≤ p.column + s.length := by
  induction s generalizing p with
  | nil => exact ⟨Nat.le_refl _, Nat.le_refl _⟩
  | cons c s ih =>
      rw [advanceAll_cons, List.length_cons]
      by_cases hc : c = '\n'
      · rw [hc, advance_newline]
        have hrest := ih ⟨p.offset + 1, p.line + 1, 1⟩ (Nat.le_refl 1)
        dsimp only at hrest
        omega
      · rw [advance_of_ne p hc]
        have hrest := ih ⟨p.offset + 1, p.line, p.column + 1⟩ (Nat.le_add_left 1 _)
        dsimp only at hrest
        omega

/-- Line and column are numbers of 32 bits. -/
def Fits (p : Position) : Prop := p.line < UInt32.size ∧ p.column < UInt32.size

theorem fits_advanceAll {s : List Char} (h : s.length < UInt32.size - 1) :
    (first.advanceAll s).Fits := by
  have hle := advanceAll_le first s (Nat.le_refl 1)
  have hline : first.line = 1 := rfl
  have hcolumn : first.column = 1 := rfl
  unfold Fits
  omega

/-! ### The order of positions -/

/-- An earlier line, or an earlier column of the same line. -/
def Before (p q : Position) : Prop := p.line < q.line ∨ p.line = q.line ∧ p.column < q.column

theorem Before.trans {p q r : Position} (hpq : p.Before q) (hqr : q.Before r) : p.Before r := by
  unfold Before at *
  omega

theorem before_advance (p : Position) (c : Char) : p.Before (p.advance c) := by
  by_cases hc : c = '\n'
  · rw [hc, advance_newline]
    exact .inl (Nat.lt_succ_self _)
  · rw [advance_of_ne p hc]
    exact .inr ⟨rfl, Nat.lt_succ_self _⟩

/-- A walk leads forward. -/
theorem before_advanceAll (p : Position) {s : List Char} (hs : s ≠ []) :
    p.Before (p.advanceAll s) := by
  induction s generalizing p with
  | nil => contradiction
  | cons c s ih =>
      rw [advanceAll_cons]
      by_cases hrest : s = []
      · rw [hrest]
        exact before_advance p c
      · exact (before_advance p c).trans (ih (p.advance c) hrest)

end Position

/-! ## Looking up and walking -/

/-- The text is cut at a place of a line. -/
theorem Line.Stands.take_eq {l : Line} {s before after : List Char} {i k : Nat}
    (h : l.Stands s before after i) (hk : k ≤ l.chars.length) :
    s.take (l.start + k) = before ++ l.chars.take k := by
  rw [h.eq, h.start_eq, List.take_length_add_append, List.take_append_of_le_length hk]

namespace SourceMap

/-- An offset past the end has the position of the end. -/
theorem position_min (m : SourceMap) (offset : Nat) :
    m.position (min offset m.charCount) = m.position offset := by
  unfold position
  rw [Nat.min_assoc, Nat.min_self]

theorem position_eq_advanceAll_of_le {text : String} {offset : Nat}
    (h : offset ≤ (ofText text).charCount) :
    (ofText text).position offset = Position.first.advanceAll (text.toList.take offset) := by
  obtain ⟨i, l, hl, hstart, hstop⟩ := exists_line h
  obtain ⟨before, after, hstands⟩ := stands_of_getElem? hl
  obtain ⟨k, rfl⟩ := Nat.exists_eq_add_of_le hstart
  have hk : k ≤ l.chars.length := by omega
  have hclosed : '\n' ∉ l.chars.take k := fun hmem => hstands.closed (List.mem_of_mem_take hmem)
  rw [position_eq hl hk, hstands.take_eq hk, Position.advanceAll_append,
    Position.advanceAll_of_opens hstands.opens, Position.advanceAll_of_not_mem hclosed,
    hstands.count_eq, ← hstands.start_eq, List.length_take_of_le hk, Nat.add_comm 1 k]

/-- The table and the walk agree. -/
theorem position_eq_advanceAll (text : String) (offset : Nat) :
    (ofText text).position offset = Position.first.advanceAll
      (text.toList.take (min offset (ofText text).charCount)) := by
  rw [← position_min, position_eq_advanceAll_of_le (Nat.min_le_right _ _)]

theorem fits_position {text : String} (hfew : text.toList.length < UInt32.size - 1) (offset : Nat) :
    ((ofText text).position offset).Fits := by
  have hle := List.length_take_le' (min offset (ofText text).charCount) text.toList
  rw [position_eq_advanceAll]
  exact Position.fits_advanceAll (by omega)

/-! ## Searching among the starts of the lines -/

/-- What a search for an offset among the starts of the lines may answer: a line that starts
there, or, as a failure, the place that such a line would have to take if there is none. -/
inductive Sought (m : SourceMap) (offset : Nat) : Except Nat Nat → Prop
  | found {i : Nat} {l : Line} (line : m.lines[i]? = some l) (start_eq : l.start = offset) :
      Sought m offset (.ok i)
  | missing {i : Nat} (le_size : i ≤ m.lines.size)
      (before : ∀ (j : Nat) l, m.lines[j]? = some l → j < i → l.start < offset)
      (behind : ∀ (j : Nat) l, m.lines[j]? = some l → i ≤ j → offset < l.start) :
      Sought m offset (.error i)

/-- The line that an answer leads to: the one that was found, or the one in front of the
place. -/
def foundIndex : Except Nat Nat → Nat
  | .ok i => i
  | .error i => i - 1

/-- The starts of the lines in front of one that holds an offset, and of those behind it. -/
theorem start_of_getElem? {text : String} {i j offset : Nat} {l m : Line}
    (hl : (ofText text).lines[i]? = some l) (hm : (ofText text).lines[j]? = some m)
    (hstop : offset ≤ l.start + l.chars.length) :
    (j < i → m.start < l.start) ∧ (j = i → m = l) ∧ (i < j → offset < m.start) := by
  have hpairwise := lines_pairwise text
  refine ⟨fun hlt => ?_, fun heq => ?_, fun hlt => ?_⟩
  · have hrow := Search.rel_of_getElem? hpairwise hlt hm hl
    omega
  · rw [heq] at hm
    exact Option.some.inj (hm.symm.trans hl)
  · have hrow := Search.rel_of_getElem? hpairwise hlt hl hm
    omega

/-- A search answers with a line only where the line starts, and with the place behind it
elsewhere. -/
theorem Sought.answer_eq {text : String} {i offset : Nat} {l : Line} {answer : Except Nat Nat}
    (h : (ofText text).Sought offset answer) (hl : (ofText text).lines[i]? = some l)
    (hstart : l.start ≤ offset) (hstop : offset ≤ l.start + l.chars.length) :
    answer = if l.start = offset then .ok i else .error (i + 1) := by
  cases h with
  | @found j m hm hmstart =>
      have hrow := start_of_getElem? hl hm hstop
      have hj : j = i := by omega
      obtain rfl := hrow.2.1 hj
      rw [if_pos hmstart, hj]
  | @missing j hsize hbefore hbehind =>
      have hfront := hbefore i l hl
      have hback := hbehind i l hl
      -- the next line starts behind the offset, so no place after its own is one
      have hnext : ¬ i + 1 < j := by
        intro hlt
        have hm : (ofText text).lines[i + 1]? = some (ofText text).lines[i + 1] :=
          Array.getElem?_eq_getElem (by omega)
        have hrow := (start_of_getElem? hl hm hstop).2.2 (Nat.lt_succ_self i)
        have hlast := hbefore (i + 1) _ hm hlt
        omega
      have hne : l.start ≠ offset := by omega
      have hj : j = i + 1 := by omega
      rw [if_neg hne, hj]

/-- An offset that a line holds is found at its start, and is missing right behind the line
otherwise. -/
theorem sought_iff {text : String} {i offset : Nat} {l : Line}
    (hl : (ofText text).lines[i]? = some l) (hstart : l.start ≤ offset)
    (hstop : offset ≤ l.start + l.chars.length) {answer : Except Nat Nat} :
    (ofText text).Sought offset answer ↔
      answer = if l.start = offset then .ok i else .error (i + 1) := by
  constructor
  · intro h
    exact h.answer_eq hl hstart hstop
  · rintro rfl
    by_cases heq : l.start = offset
    · rw [if_pos heq]
      exact .found hl heq
    · rw [if_neg heq]
      have hi : i < (ofText text).lines.size := (Array.getElem?_eq_some_iff.1 hl).1
      refine .missing hi (fun j m hm hj => ?_) (fun j m hm hj => ?_)
      · have hrow := start_of_getElem? hl hm hstop
        by_cases hji : j = i
        · rw [hrow.2.1 hji]
          omega
        · have hlt := hrow.1 (by omega)
          omega
      · exact (start_of_getElem? hl hm hstop).2.2 hj

/-- The search has one answer, which is never the place in front of all lines. It leads to a
line that starts by the offset, and the position is counted from there. -/
theorem exists_sought {text : String} {offset : Nat} (h : offset ≤ (ofText text).charCount) :
    ∃ answer, (∀ other, (ofText text).Sought offset other ↔ other = answer) ∧
      answer ≠ .error 0 ∧ ∃ l, (ofText text).lines[foundIndex answer]? = some l ∧
        l.start ≤ offset ∧ (ofText text).position offset =
          ⟨offset, foundIndex answer + 1, offset - l.start + 1⟩ := by
  obtain ⟨i, l, hl, hstart, hstop⟩ := exists_line h
  refine ⟨_, fun other => sought_iff hl hstart hstop, ?_, l, ?_, hstart, ?_⟩
  · by_cases heq : l.start = offset <;> simp [heq]
  · by_cases heq : l.start = offset <;> simpa [heq, foundIndex] using hl
  · obtain ⟨k, rfl⟩ := Nat.exists_eq_add_of_le hstart
    have hindex : foundIndex (if l.start = l.start + k then .ok i else .error (i + 1)) = i := by
      split <;> rfl
    rw [position_eq hl (by omega), hindex, Nat.add_sub_cancel_left]

/-! ## Every offset of a text -/

/-- For every offset the table gives the position that walking over the characters before it
leads to, in numbers of 32 bits. Positions come strictly in the order of their offsets up to the
end, which also stands for all that is past it; and the look-up among the starts of the lines
neither misses a line nor counts from one that begins too late. -/
theorem position_walks (text : String) (hfew : text.toList.length < UInt32.size - 1) :
    let m := ofText text
    (∀ offset, m.position offset =
        Position.first.advanceAll (text.toList.take (min offset m.charCount)) ∧
      (m.position offset).Fits) ∧
    (∀ offset later, offset < later → later ≤ m.charCount →
      (m.position offset).Before (m.position later)) ∧
    (∀ offset, m.charCount ≤ offset → m.position offset = m.position m.charCount) ∧
    ∀ offset, ∃ answer,
      (∀ other, m.Sought (min offset m.charCount) other ↔ other = answer) ∧
      answer ≠ .error 0 ∧ ∃ l, m.lines[foundIndex answer]? = some l ∧
        l.start ≤ min offset m.charCount ∧
        m.position offset = ⟨min offset m.charCount, foundIndex answer + 1,
          min offset m.charCount - l.start + 1⟩ := by
  refine ⟨fun offset => ⟨position_eq_advanceAll text offset, fits_position hfew offset⟩,
    ?_, ?_, ?_⟩
  · intro offset later hlt hlater
    have hsplit : text.toList.take later =
        text.toList.take offset ++ (text.toList.drop offset).take (later - offset) := by
      rw [← List.take_add, Nat.add_sub_cancel' (Nat.le_of_lt hlt)]
    have hne : (text.toList.drop offset).take (later - offset) ≠ [] := by
      have hlength : (ofText text).charCount = text.toList.length := rfl
      apply List.ne_nil_of_length_pos
      rw [List.length_take, List.length_drop]
      omega
    rw [position_eq_advanceAll_of_le (Nat.le_of_lt (Nat.lt_of_lt_of_le hlt hlater)),
      position_eq_advanceAll_of_le hlater, hsplit, Position.advanceAll_append]
    exact Position.before_advanceAll _ hne
  · intro offset hle
    rw [← position_min, Nat.min_eq_right hle]
  · intro offset
    rw [← position_min]
    exact exists_sought (Nat.min_le_right _ _)

/-- Two newlines in a row, and a carriage return that ends the text: the start of the empty
line, the start of the last one, and an offset past the end. -/
theorem position_walks_emptyLine :
    "é\n\nx\r".toList.length < UInt32.size - 1 ∧
    (ofText "é\n\nx\r").position 2 = ⟨2, 2, 1⟩ ∧ (ofText "é\n\nx\r").position 3 = ⟨3, 3, 1⟩ ∧
    (ofText "é\n\nx\r").position 9 = ⟨5, 3, 3⟩ ∧
    ((ofText "é\n\nx\r").position 2).Before ((ofText "é\n\nx\r").position 3) := by
  have hfew : "é\n\nx\r".toList.length < UInt32.size - 1 := by decide
  obtain ⟨hwalk, hbefore, -⟩ := position_walks "é\n\nx\r" hfew
  refine ⟨hfew, ?_, ?_, ?_, hbefore 2 3 (by decide) (by decide)⟩
  · rw [(hwalk 2).1]
    rfl
  · rw [(hwalk 3).1]
    rfl
  · rw [(hwalk 9).1]
    rfl

end SourceMap

end Glossary
