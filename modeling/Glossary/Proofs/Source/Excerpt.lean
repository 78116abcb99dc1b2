import Glossary.Proofs.Source.Reach

/-!
# Excerpts of spans

An excerpt shows the line that a span starts on, with carets under the span. The
columns of a span count the carriage returns at the end of its line, but the line is
shown without them. So a span that starts behind what is shown of its line and ends
on a later one would have to be marked from there back to the end of the line: there
is no excerpt of it. Every other span of two offsets in order has one.

The offsets that line and column lead to are shown, so the excerpt at such an offset
is always there, with one caret at the column.

## Main results

* `SourceMap.caretCount?_span` — how many carets mark the span of two offsets.
* `SourceMap.excerpt?_eq_some` — the lines of an excerpt.
* `SourceMap.excerpt?_of_offset?` — the excerpt at an offset that line and column lead to.
* `SourceMap.excerpt?_span` — which spans have no excerpt, and what the others show.
-/

namespace Glossary

open Text

namespace SourceMap

/-! ## The lines of an excerpt -/

/-- A heading, and a line with carets under it from the column of a place on. Both stand behind
a margin that is as wide as the number of the line. -/
def excerptLines (p : Position) (shown : List Char) (carets : Nat) : List (List Char) :=
  let number := toString p.line
  let margin := List.replicate number.length ' '
  ["  --> ".toList ++ p.display.toList,
    margin ++ " |".toList,
    number.toList ++ (" | ".toList ++ shown),
    margin ++ (" | ".toList ++ (List.replicate (p.column - 1) ' ' ++ List.replicate carets '^'))]

theorem newline_not_mem_digits (n : Nat) : '\n' ∉ Nat.toDigits 10 n := by
  intro hmem
  have hdigit := Nat.isDigit_of_mem_toDigits (by decide) (by decide) hmem
  exact absurd hdigit (by decide)

theorem newline_not_mem_excerptLines {shown : List Char} (h : '\n' ∉ shown) (p : Position)
    (carets : Nat) : ∀ row ∈ excerptLines p shown carets, '\n' ∉ row := by
  have hdisplay : p.display.toList =
      Nat.toDigits 10 p.line ++ ':' :: Nat.toDigits 10 p.column := by
    simp [Position.display]
    rfl
  simp [excerptLines, hdisplay, h, newline_not_mem_digits]

/-- An excerpt with carets has these lines. -/
theorem excerpt?_eq_some {m : SourceMap} {s : Span} {l : Line} {carets : Nat}
    (hl : m.line? s.start.line = some l) (hnewline : '\n' ∉ l.shown) (hcolumn : s.start.column ≠ 0)
    (hcarets : caretCount? s l.shown.length = some carets) :
    ∃ excerpt, m.excerpt? s = some excerpt ∧
      pieces excerpt.toList = excerptLines s.start l.shown carets ++ [[]] := by
  unfold excerpt?
  simp only [hl, if_neg hcolumn, hcarets, Option.map_some]
  refine ⟨_, rfl, ?_⟩
  rw [← pieces_ended (newline_not_mem_excerptLines hnewline s.start carets)]
  apply congrArg pieces
  have hself : ∀ s : String, toString s = s := fun _ => rfl
  simp [excerptLines, hself]

theorem excerpt?_eq_none_iff {m : SourceMap} {s : Span} {l : Line}
    (hl : m.line? s.start.line = some l) (hcolumn : s.start.column ≠ 0) :
    m.excerpt? s = none ↔ caretCount? s l.shown.length = none := by
  unfold excerpt?
  simp only [hl, if_neg hcolumn, Option.map_eq_none_iff]

/-! ## Carets under a span -/

/-- Carets between two columns of one line. -/
theorem caretCount?_of_line_eq {p q : Position} (h : p.line = q.line)
    (hle : p.column ≤ q.column) (shown : Nat) :
    caretCount? ⟨p, q⟩ shown = some (max 1 (q.column - p.column)) := by
  rw [caretCount?, if_pos h, if_neg (Nat.not_lt.2 hle)]

/-- Carets up to the end of a line that the span runs out of. -/
theorem caretCount?_of_line_ne {p q : Position} (h : p.line ≠ q.line) {k : Nat}
    (hk : p.column = k + 1) (shown : Nat) :
    caretCount? ⟨p, q⟩ shown = if shown < k then none else some (max 1 (shown - k)) := by
  have hsub : shown + 1 - (k + 1) = shown - k := by omega
  unfold caretCount?
  dsimp only
  rw [if_neg h, hk, hsub]
  by_cases hshown : shown < k
  · rw [if_pos hshown, if_pos (by omega)]
  · rw [if_neg hshown, if_neg (by omega)]

/-- Carets under the span of two offsets, the first of which is a place of a line: none if the
span ends on a later line and starts behind its own as it is shown. -/
theorem caretCount?_span {text : String} {a b i k : Nat} {l : Line} (hab : a ≤ b)
    (hl : (ofText text).lines[i]? = some l) (hk : k ≤ l.chars.length)
    (ha : min a (ofText text).charCount = l.start + k) (shown : Nat) :
    caretCount? ((ofText text).span a b) shown =
      if ((ofText text).position b).line ≠ i + 1 ∧ shown < k then none
      else some (max 1 (if ((ofText text).position b).line = i + 1 then
        min b (ofText text).charCount - min a (ofText text).charCount else shown - k)) := by
  have hfirst : (ofText text).position a = ⟨l.start + k, i + 1, k + 1⟩ := by
    rw [← position_min, ha, position_eq hl hk]
  obtain ⟨j, n, m, hm, hn, hb, hlast⟩ := exists_place (Nat.min_le_right b (ofText text).charCount)
  rw [position_min] at hlast
  rw [span, hfirst, hlast]
  by_cases hline : j + 1 = i + 1
  · -- both ends lie on one line, so their columns are as far apart as they are
    obtain rfl : j = i := by omega
    obtain rfl : m = l := Option.some.inj (hm.symm.trans hl)
    have hsub : min b (ofText text).charCount - min a (ofText text).charCount =
        n + 1 - (k + 1) := by omega
    rw [if_neg (fun h => h.1 rfl), if_pos rfl, hsub]
    refine caretCount?_of_line_eq ?_ ?_ shown
    · rfl
    · show k + 1 ≤ n + 1
      omega
  · rw [caretCount?_of_line_ne (fun h => hline h.symm) rfl, if_neg hline]
    simp only [Ne, hline, not_false_eq_true, true_and]

/-! ## Excerpts of the spans of a text -/

theorem line?_of_getElem? {m : SourceMap} {i : Nat} {l : Line} (h : m.lines[i]? = some l) :
    m.line? (i + 1) = some l := by
  rw [line?, if_neg (Nat.succ_ne_zero i), Nat.add_sub_cancel, h]

theorem newline_not_mem_shown {text : String} {i : Nat} {l : Line}
    (h : (ofText text).lines[i]? = some l) : '\n' ∉ l.shown := by
  obtain ⟨before, after, hstands⟩ := stands_of_getElem? h
  intro hmem
  exact hstands.closed ((isPrefix_shown l).mem hmem)

/-- The excerpt of a span that starts at a place of a line. -/
theorem excerpt?_of_getElem? {text : String} {i k : Nat} {l : Line} {s : Span}
    (hl : (ofText text).lines[i]? = some l) (hline : s.start.line = i + 1)
    (hcolumn : s.start.column = k + 1) :
    ((ofText text).excerpt? s = none ↔ caretCount? s l.shown.length = none) ∧
    ∀ carets, caretCount? s l.shown.length = some carets →
      ∃ excerpt, (ofText text).excerpt? s = some excerpt ∧
        pieces excerpt.toList = excerptLines s.start l.shown carets ++ [[]] := by
  have hfound : (ofText text).line? s.start.line = some l := by
    rw [hline]
    exact line?_of_getElem? hl
  have hpos : s.start.column ≠ 0 := by
    rw [hcolumn]
    exact Nat.succ_ne_zero k
  exact ⟨excerpt?_eq_none_iff hfound hpos, fun carets hcarets =>
    excerpt?_eq_some hfound (newline_not_mem_shown hl) hpos hcarets⟩

/-- At an offset that line and column lead to there is one caret. -/
theorem caretCount?_of_offset? {text : String} {i k : Nat} {l : Line}
    (hl : (ofText text).lines[i]? = some l) (hk : k ≤ l.shown.length) :
    caretCount? ((ofText text).span (l.start + k) (l.start + k + 1)) l.shown.length = some 1 := by
  have hchars := length_shown_le l
  have hstop : l.start + l.chars.length ≤ (ofText text).charCount := stop_le_length hl
  have hmin : min (l.start + k) (ofText text).charCount = l.start + k := by omega
  have hshown : ¬ (((ofText text).position (l.start + k + 1)).line ≠ i + 1 ∧
      l.shown.length < k) := fun h => Nat.not_lt.2 hk h.2
  have hnext : l.start + k ≤ l.start + k + 1 := Nat.le_succ _
  rw [caretCount?_span hnext hl (by omega) hmin, if_neg hshown, Option.some.injEq]
  by_cases hlt : k < l.chars.length
  · -- the next offset lies on the same line
    rw [Nat.add_assoc, position_eq hl hlt, if_pos rfl]
    omega
  · -- the line ends here, and so does what is shown of it
    split
    · omega
    · omega

/-- The excerpt at an offset that line and column lead to: one caret, at the column. -/
theorem excerpt?_of_offset? {text : String} {line column offset : Nat}
    (h : (ofText text).offset? line column = some offset) :
    1 ≤ line ∧ ∃ piece excerpt, (pieces text.toList)[line - 1]? = some piece ∧
      (ofText text).excerpt? ((ofText text).span offset (offset + 1)) = some excerpt ∧
      pieces excerpt.toList =
        excerptLines ⟨offset, line, column⟩ (dropReturns piece) 1 ++ [[]] := by
  obtain ⟨-, hposition⟩ := position_of_offset? h
  obtain ⟨i, k, l, rfl, rfl, hl, hk, rfl⟩ := offset?_eq_some_iff.1 h
  obtain ⟨-, hsome⟩ := excerpt?_of_getElem? (k := k)
    (s := (ofText text).span (l.start + k) (l.start + k + 1)) hl
    (congrArg Position.line hposition) (congrArg Position.column hposition)
  obtain ⟨excerpt, hexcerpt, hpieces⟩ := hsome 1 (caretCount?_of_offset? hl hk)
  refine ⟨Nat.le_add_left 1 i, l.chars, excerpt, pieces_of_getElem? hl, hexcerpt, ?_⟩
  rw [← hposition]
  exact hpieces

/-- For two offsets in order, where an offset past the end stands for the end: their span has no
excerpt if it ends on a later line and starts behind its own line as it is shown. Every other
excerpt shows this line from its start on, with as many carets under it as the span has
characters on one line, or as are left of what is shown if the span runs out of it; and with one
at least. At an offset that line and column lead to, there is always one caret, at the column.
All lines and columns fit into 32 bits. -/
theorem excerpt?_span (text : String) (hfew : text.toList.length < UInt32.size - 1) :
    let m := ofText text
    (∀ a b, a ≤ b → ∃ line column piece,
      m.position a = ⟨min a m.charCount, line + 1, column + 1⟩ ∧
      (m.position a).Fits ∧ (m.position b).Fits ∧
      (pieces text.toList)[line]? = some piece ∧
      (m.excerpt? (m.span a b) = none ↔
        (m.position b).line ≠ line + 1 ∧ (dropReturns piece).length < column) ∧
      ∀ excerpt, m.excerpt? (m.span a b) = some excerpt → pieces excerpt.toList =
        excerptLines (m.position a) (dropReturns piece)
          (max 1 (if (m.position b).line = line + 1 then min b m.charCount - min a m.charCount
            else (dropReturns piece).length - column)) ++ [[]]) ∧
    ∀ line column offset, m.offset? line column = some offset →
      1 ≤ line ∧ ∃ piece excerpt, (pieces text.toList)[line - 1]? = some piece ∧
        m.excerpt? (m.span offset (offset + 1)) = some excerpt ∧
        pieces excerpt.toList =
          excerptLines ⟨offset, line, column⟩ (dropReturns piece) 1 ++ [[]] := by
  refine ⟨?_, ?_⟩
  · intro a b hab
    obtain ⟨i, k, l, hl, hk, ha, hposition⟩ :=
      exists_place (Nat.min_le_right a (ofText text).charCount)
    rw [position_min] at hposition
    have hcount := caretCount?_span hab hl hk ha l.shown.length
    obtain ⟨hnone, hsome⟩ := excerpt?_of_getElem? (k := k) (s := (ofText text).span a b) hl
      (congrArg Position.line hposition) (congrArg Position.column hposition)
    refine ⟨i, k, l.chars, hposition, fits_position hfew a, fits_position hfew b,
      pieces_of_getElem? hl, ?_, ?_⟩
    · rw [hnone, hcount, ite_eq_left_iff]
      simp [Line.shown]
    · intro excerpt hexcerpt
      have hmarked : ¬ (((ofText text).position b).line ≠ i + 1 ∧ l.shown.length < k) := by
        intro h
        rw [if_pos h, ← hnone, hexcerpt] at hcount
        cases hcount
      rw [if_neg hmarked] at hcount
      obtain ⟨other, hother, hpieces⟩ := hsome _ hcount
      obtain rfl : other = excerpt := Option.some.inj (hother.symm.trans hexcerpt)
      exact hpieces
  · intro line column offset h
    exact excerpt?_of_offset? h

/-- Two carriage returns end the first line. The span from between them to the second line has
no excerpt; one caret stands right behind the letter in front of them, and one stands under the
last character of a span that goes past the end. -/
theorem excerpt?_span_returns :
    let m := ofText "a\r\r\nb"
    "a\r\r\nb".toList.length < UInt32.size - 1 ∧ 2 ≤ 4 ∧ m.excerpt? (m.span 2 4) = none ∧
      (∃ excerpt, m.excerpt? (m.span 1 2) = some excerpt ∧
        pieces excerpt.toList = excerptLines ⟨1, 1, 2⟩ ['a'] 1 ++ [[]]) ∧
      4 ≤ 9 ∧ ∀ excerpt, m.excerpt? (m.span 4 9) = some excerpt →
        pieces excerpt.toList = excerptLines ⟨4, 2, 1⟩ ['b'] 1 ++ [[]] := by
  have hfew : "a\r\r\nb".toList.length < UInt32.size - 1 := by decide
  obtain ⟨hspan, hpoint⟩ := excerpt?_span "a\r\r\nb" hfew
  have hsecond : (ofText "a\r\r\nb").position 2 = ⟨2, 1, 3⟩ := by
    rw [position_eq_advanceAll]
    rfl
  have hlast : (ofText "a\r\r\nb").position 4 = ⟨4, 2, 1⟩ := by
    rw [position_eq_advanceAll]
    rfl
  have hpast : (ofText "a\r\r\nb").position 9 = ⟨5, 2, 2⟩ := by
    rw [position_eq_advanceAll]
    rfl
  refine ⟨hfew, by decide, ?_, ?_, by decide, ?_⟩
  · obtain ⟨line, column, piece, hposition, -, -, hpiece, hnone, -⟩ := hspan 2 4 (by decide)
    rw [hsecond] at hposition
    cases hposition
    cases hpiece
    rw [hlast] at hnone
    exact hnone.2 (by decide)
  · obtain ⟨-, piece, excerpt, hpiece, hexcerpt, hpieces⟩ := hpoint 1 2 1 rfl
    cases hpiece
    exact ⟨excerpt, hexcerpt, hpieces⟩
  · obtain ⟨line, column, piece, hposition, -, -, hpiece, -, hsome⟩ := hspan 4 9 (by decide)
    rw [hlast] at hposition hsome
    cases hposition
    cases hpiece
    rw [hpast] at hsome
    exact hsome

end SourceMap

end Glossary
