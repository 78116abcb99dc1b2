import Glossary.Proofs.Source.Rows
import Glossary.Proofs.Text.Lines
import Glossary.Proofs.Token.Tokenization
import Glossary.Source.SourceMap

/-!
# What the lines of a source map are

A line *stands* in a text behind some characters and in front of others: what
lies before it is empty or ends in a newline, what lies behind it is empty or
begins with one, and the line itself has none. Its number is the number of
newlines before it, and its starts are the lengths of what lies before it.

Every row of the table of a source map stands so, and every offset of the text
lies in exactly one of them, its end included. The lookups of positions and
offsets follow from that without another look at the table.

## Main results

* `SourceMap.stands_of_getElem?` — every row of the table stands in the text.
* `SourceMap.exists_line` — every offset lies in a line.
* `SourceMap.position_eq` — the position of a place in a line.
* `SourceMap.exists_shown_of_solid` — a token never runs over the end of a line.
* `SourceMap.offset?_eq_some_iff` — the places that line and column can name.
-/

namespace Glossary

open Text

/-! ## Rows -/

/-- Row `i` of the table of `s`, between the characters before and behind it. -/
structure Line.Stands (l : Line) (s before after : List Char) (i : Nat) : Prop where
  eq : s = before ++ (l.chars ++ after)
  start_eq : l.start = before.length
  byteStart_eq : l.byteStart = byteLength before
  count_eq : before.count '\n' = i
  opens : before = [] ∨ before.getLast? = some '\n'
  closed : '\n' ∉ l.chars
  ends : after = [] ∨ after.head? = some '\n'

/-- A character of a line stands at its place in the text. -/
theorem Line.Stands.getElem?_eq {l : Line} {s before after : List Char} {i k : Nat}
    (h : l.Stands s before after i) (hk : k < l.chars.length) :
    s[l.start + k]? = l.chars[k]? := by
  rw [h.eq, h.start_eq, List.getElem?_append_right (by omega), Nat.add_sub_cancel_left,
    List.getElem?_append_left hk]

/-- Right behind a line there is a newline or nothing. -/
theorem Line.Stands.getElem?_stop {l : Line} {s before after : List Char} {i : Nat} {c : Char}
    (h : l.Stands s before after i) (hc : s[l.start + l.chars.length]? = some c) : c = '\n' := by
  rw [h.eq, h.start_eq, List.getElem?_append_right (by omega), Nat.add_sub_cancel_left,
    List.getElem?_append_right (Nat.le_refl _), Nat.sub_self, ← List.head?_eq_getElem?] at hc
  rcases h.ends with rfl | hends
  · cases hc
  · rw [hends, Option.some.injEq] at hc
    exact hc.symm

namespace SourceMap

/-- The rows for some pieces, the first of which starts at the given place. -/
def rows (start byteStart : Nat) : List (List Char) → List Line
  | [] => []
  | p :: ps =>
      ⟨start, byteStart, p⟩ :: rows (start + p.length + 1) (byteStart + byteLength p + 1) ps

theorem toList_layOut (start byteStart : Nat) (ps : List (List Char)) (found : Array Line) :
    (layOut start byteStart ps found).toList = found.toList ++ rows start byteStart ps := by
  induction ps generalizing start byteStart found with
  | nil => simp [layOut, rows]
  | cons p ps ih =>
      rw [layOut, ih, rows]
      simp

theorem toList_lines (text : String) :
    (ofText text).lines.toList = rows 0 0 (pieces text.toList) := by
  simp [ofText, toList_layOut]

theorem byteLength_newline (p : List Char) :
    byteLength (p ++ ['\n']) = byteLength p + 1 := by
  rw [byteLength_append]
  rfl

/-- The rows laid out behind `before` stand in the whole text. -/
theorem stands_of_getElem?_rows (s before : List Char) (i : Nat) (l : Line)
    (hbefore : before = [] ∨ before.getLast? = some '\n')
    (hl : (rows before.length (byteLength before) (pieces s))[i]? = some l) :
    ∃ b a, l.Stands (before ++ s) b a (before.count '\n' + i) := by
  induction s using pieces_induction generalizing before i with
  | last s h =>
      rw [pieces_of_not_mem h] at hl
      cases i with
      | zero =>
          obtain rfl : ⟨before.length, byteLength before, s⟩ = l := by simpa [rows] using hl
          exact ⟨before, [], by simp, rfl, rfl, rfl, hbefore, h, .inl rfl⟩
      | succ i => simp [rows] at hl
  | cut p rest hp ih =>
      rw [pieces_append_newline hp, rows] at hl
      cases i with
      | zero =>
          obtain rfl : ⟨before.length, byteLength before, p⟩ = l := by simpa using hl
          exact ⟨before, '\n' :: rest, rfl, rfl, rfl, rfl, hbefore, hp, .inr rfl⟩
      | succ i =>
          rw [List.getElem?_cons_succ] at hl
          have hlen : before.length + p.length + 1 = (before ++ (p ++ ['\n'])).length := by
            simp [Nat.add_assoc]
          have hbytes : byteLength before + byteLength p + 1 =
              byteLength (before ++ (p ++ ['\n'])) := by
            rw [byteLength_append, byteLength_newline, Nat.add_assoc]
          have hcount : (before ++ (p ++ ['\n'])).count '\n' + i =
              before.count '\n' + (i + 1) := by
            simp [List.count_append, List.count_eq_zero_of_not_mem hp]
            omega
          have hlast : (before ++ (p ++ ['\n'])).getLast? = some '\n' := by simp
          rw [hlen, hbytes] at hl
          obtain ⟨b, a, hstands⟩ := ih _ i (.inr hlast) hl
          refine ⟨b, a, ?_⟩
          rw [hcount] at hstands
          simpa using hstands

/-- Every row of the table stands in the text. -/
theorem stands_of_getElem? {text : String} {i : Nat} {l : Line}
    (h : (ofText text).lines[i]? = some l) :
    ∃ before after, l.Stands text.toList before after i := by
  rw [← Array.getElem?_toList, toList_lines] at h
  simpa using stands_of_getElem?_rows text.toList [] i l (.inl rfl) h

/-! ## Every offset lies in one line -/

theorem exists_row (s : List Char) (start byteStart offset : Nat) (h : offset ≤ s.length) :
    ∃ (i : Nat) (l : Line), (rows start byteStart (pieces s))[i]? = some l ∧
      l.start ≤ start + offset ∧ start + offset ≤ l.start + l.chars.length := by
  induction s using pieces_induction generalizing start byteStart offset with
  | last s hs =>
      rw [pieces_of_not_mem hs]
      exact ⟨0, ⟨start, byteStart, s⟩, by simp [rows], by simp, by simpa using h⟩
  | cut p rest hp ih =>
      rw [pieces_append_newline hp, rows]
      rcases Nat.lt_or_ge p.length offset with hlt | hle
      · have hrest : offset - p.length - 1 ≤ rest.length := by
          simp only [List.length_append, List.length_cons] at h
          omega
        obtain ⟨i, l, hl, hstart, hstop⟩ := ih (start + p.length + 1)
          (byteStart + byteLength p + 1) (offset - p.length - 1) hrest
        refine ⟨i + 1, l, by simpa using hl, by omega, by omega⟩
      · exact ⟨0, ⟨start, byteStart, p⟩, by simp, by simp, by simpa using hle⟩

/-- Every offset up to the end of the text lies in a line, its end included. -/
theorem exists_line {text : String} {offset : Nat} (h : offset ≤ text.toList.length) :
    ∃ (i : Nat) (l : Line), (ofText text).lines[i]? = some l ∧
      l.start ≤ offset ∧ offset ≤ l.start + l.chars.length := by
  obtain ⟨i, l, hl, hstart, hstop⟩ := exists_row text.toList 0 0 offset h
  rw [← toList_lines, Array.getElem?_toList] at hl
  exact ⟨i, l, hl, by omega, by omega⟩

theorem rows_pairwise (start byteStart : Nat) (ps : List (List Char)) :
    (∀ l ∈ rows start byteStart ps, start ≤ l.start) ∧
      (rows start byteStart ps).Pairwise fun l m => l.start + l.chars.length < m.start := by
  induction ps generalizing start byteStart with
  | nil => exact ⟨by simp [rows], .nil⟩
  | cons p ps ih =>
      rw [rows]
      obtain ⟨hstart, hpairwise⟩ := ih (start + p.length + 1) (byteStart + byteLength p + 1)
      refine ⟨?_, .cons ?_ hpairwise⟩
      · intro l hl
        rcases List.mem_cons.1 hl with rfl | hl
        · exact Nat.le_refl _
        · have := hstart l hl
          omega
      · intro l hl
        have := hstart l hl
        show start + p.length < l.start
        omega

theorem lines_pairwise (text : String) :
    (ofText text).lines.toList.Pairwise fun l m => l.start + l.chars.length < m.start := by
  rw [toList_lines]
  exact (rows_pairwise 0 0 _).2

/-! ## Positions -/

/-- The lines that start by an offset come before those that do not. -/
theorem passFirst_start (text : String) (offset : Nat) :
    Search.PassFirst (ofText text).lines (·.start ≤ offset) := by
  refine (lines_pairwise text).imp ?_
  intro l m hlt hstart
  rw [decide_eq_true_eq] at hstart ⊢
  omega

/-- The lookup finds the line that an offset lies in. -/
theorem lineIndex_eq {text : String} {i offset : Nat} {l : Line}
    (hl : (ofText text).lines[i]? = some l) (hstart : l.start ≤ offset)
    (hstop : offset ≤ l.start + l.chars.length) : (ofText text).lineIndex offset = i := by
  let k := Search.partitionPoint (fun i => (ofText text).lines[i]?.any (·.start ≤ offset))
    (ofText text).lines.size
  have hk : ∀ (j : Nat) m, (ofText text).lines[j]? = some m → (j < k ↔ m.start ≤ offset) := by
    intro j m hm
    have hpass := Search.lt_partitionPoint_any_iff (passFirst_start text offset) hm
    rwa [decide_eq_true_eq] at hpass
  have hile : i < k := (hk i l hl).2 hstart
  have hkle : k ≤ (ofText text).lines.size := Search.partitionPoint_le _ _
  -- the line behind this one, if there is one, starts behind the offset
  have hnext : ¬ i + 1 < k := by
    intro hlt
    have hm : (ofText text).lines[i + 1]? = some (ofText text).lines[i + 1] :=
      Array.getElem?_eq_getElem (by omega)
    have hmstart := (hk (i + 1) _ hm).1 hlt
    have := Search.rel_of_getElem? (lines_pairwise text) (Nat.lt_succ_self i) hl hm
    omega
  show k - 1 = i
  omega

theorem stop_le_length {text : String} {i : Nat} {l : Line}
    (hl : (ofText text).lines[i]? = some l) :
    l.start + l.chars.length ≤ text.toList.length := by
  obtain ⟨before, after, hstands⟩ := stands_of_getElem? hl
  rw [hstands.eq, hstands.start_eq]
  simp only [List.length_append]
  omega

/-- Before a line there are as many characters as lines, or more. -/
theorem index_le_start {text : String} {i : Nat} {l : Line}
    (hl : (ofText text).lines[i]? = some l) : i ≤ l.start := by
  obtain ⟨before, after, hstands⟩ := stands_of_getElem? hl
  rw [← hstands.count_eq, hstands.start_eq]
  exact List.count_le_length

/-- The position of a place in a line. -/
theorem position_eq {text : String} {i k : Nat} {l : Line}
    (hl : (ofText text).lines[i]? = some l) (hk : k ≤ l.chars.length) :
    (ofText text).position (l.start + k) = ⟨l.start + k, i + 1, k + 1⟩ := by
  have hlength := stop_le_length hl
  have hmin : min (l.start + k) (ofText text).charCount = l.start + k :=
    Nat.min_eq_left (by show _ ≤ text.toList.length; omega)
  have hindex : (ofText text).lineIndex (l.start + k) = i :=
    lineIndex_eq hl (by omega) (by omega)
  rw [position]
  simp only [hmin, hindex, hl, Option.map_some, Option.getD_some]
  rw [Nat.add_sub_cancel_left]

/-! ## Lines as they are shown -/

theorem isPrefix_shown (l : Line) : l.shown <+: l.chars := by
  rw [Line.shown, dropReturns]
  have hsuffix := List.dropWhile_suffix (· == '\r') (l := l.chars.reverse)
  have hprefix := List.reverse_prefix.2 hsuffix
  rwa [List.reverse_reverse] at hprefix

theorem length_shown_le (l : Line) : l.shown.length ≤ l.chars.length :=
  (isPrefix_shown l).length_le

/-- Up to a character that is no carriage return a line is shown. -/
theorem lt_length_shown {l : Line} {k : Nat} {c : Char} (hk : l.chars[k]? = some c)
    (hc : c ≠ '\r') : k < l.shown.length := by
  have hsplit := List.takeWhile_append_dropWhile (p := (· == '\r')) (l := l.chars.reverse)
  have hchars : l.chars =
      l.shown ++ (l.chars.reverse.takeWhile (· == '\r')).reverse := by
    rw [Line.shown, dropReturns, ← List.reverse_append, hsplit, List.reverse_reverse]
  apply Nat.lt_of_not_ge
  intro hge
  rw [hchars, List.getElem?_append_right hge] at hk
  have hmem := List.mem_reverse.1 (List.mem_of_getElem? hk)
  have hreturn := List.all_eq_true.1 List.all_takeWhile c hmem
  exact hc (by simpa using hreturn)

/-- Characters in a row that are not blank are all shown on one line. -/
theorem exists_shown_of_solid {text : String} {start stop : Nat} (hlt : start < stop)
    (hsolid : ∀ o, start ≤ o → o < stop → ∃ c, text.toList[o]? = some c ∧ isBlank c = false) :
    ∃ (i k : Nat) (l : Line), (ofText text).lines[i]? = some l ∧ start = l.start + k ∧
      stop ≤ l.start + l.shown.length := by
  obtain ⟨c, hc, -⟩ := hsolid start (Nat.le_refl _) hlt
  have hlength : start < text.toList.length := (List.getElem?_eq_some_iff.1 hc).1
  obtain ⟨i, l, hl, hstart, hstop⟩ := exists_line (Nat.le_of_lt hlength)
  obtain ⟨before, after, hstands⟩ := stands_of_getElem? hl
  -- the newline behind the line is blank, so the characters end before it
  have hle : stop ≤ l.start + l.chars.length := by
    apply Nat.le_of_not_lt
    intro hover
    obtain ⟨d, hd, hdsolid⟩ := hsolid _ hstop hover
    rw [hstands.getElem?_stop hd] at hdsolid
    cases hdsolid
  obtain ⟨d, hd, hdsolid⟩ := hsolid (stop - 1) (by omega) (by omega)
  have hplace : stop - 1 = l.start + (stop - 1 - l.start) := by omega
  rw [hplace, hstands.getElem?_eq (by omega)] at hd
  have hreturn : d ≠ '\r' := by
    rintro rfl
    cases hdsolid
  have hshown := lt_length_shown hd hreturn
  exact ⟨i, start - l.start, l, hl, by omega, by omega⟩

/-! ## Offsets -/

/-- Line and column name the places of the lines as they are shown. -/
theorem offset?_eq_some_iff {m : SourceMap} {line column offset : Nat} :
    m.offset? line column = some offset ↔
      ∃ (i k : Nat) (l : Line), line = i + 1 ∧ column = k + 1 ∧ m.lines[i]? = some l ∧
        k ≤ l.shown.length ∧ offset = l.start + k := by
  unfold offset? line?
  constructor
  · intro h
    by_cases hcolumn : column = 0
    · simp [hcolumn] at h
    · by_cases hline : line = 0
      · simp [hline, hcolumn] at h
      · rw [if_neg hcolumn, if_neg hline] at h
        cases hl : m.lines[line - 1]? with
        | none => simp [hl] at h
        | some l =>
            simp only [hl] at h
            by_cases hshown : l.shown.length < column - 1
            · simp [hshown] at h
            · rw [if_neg hshown, Option.some.injEq] at h
              exact ⟨line - 1, column - 1, l, by omega, by omega, hl, by omega, h.symm⟩
  · rintro ⟨i, k, l, rfl, rfl, hl, hk, rfl⟩
    simp [hl]
    omega

end SourceMap

end Glossary
