import Glossary.Proofs.Source.Reach

/-!
# The table of lines in bytes

The table of a source map tells where each line starts, in characters and in bytes.
Both are counted side by side, and they name the same places: the bytes at which a
line starts have as many characters before them as the table says.

So a line can be read from the bytes of the text, between its own start and the
start of the next line, less one byte for the newline; the last line goes on to the
end of the text. This never cuts a character, because a newline has one byte and
lines end in front of newlines or at the end.

## Main results

* `SourceMap.starts_eq` — the table is the one that a pass over the text fills.
* `SourceMap.charsBefore?_byteStart` — both starts of a line name one place.
* `SourceMap.slice?_line` — the bytes of a line.
* `SourceMap.ofText_tables` — the whole table, and the lines that are read with it.
-/

namespace Glossary

open Text

theorem byteLength_take_lt {s : List Char} {a b : Nat} (hab : a < b) (hb : b ≤ s.length) :
    byteLength (s.take a) < byteLength (s.take b) := by
  have hsplit := Token.take_append_extract (s := s) (Nat.le_of_lt hab)
  have hpos := length_le_byteLength (s.extract a b)
  have hlength : (s.extract a b).length = b - a := by
    simp only [List.length_take, List.length_drop]
    omega
  rw [← hsplit, byteLength_append]
  omega

/-- Behind the last line the text ends. -/
theorem Line.Stands.eq_nil_of_last {l : Line} {s before after : List Char} {i : Nat}
    (h : l.Stands s before after i) (hlast : s.count '\n' ≤ i) : after = [] := by
  have hcount := congrArg (List.count '\n') h.eq
  rw [List.count_append, List.count_append, h.count_eq,
    List.count_eq_zero_of_not_mem h.closed] at hcount
  rcases h.ends with hnil | hends
  · exact hnil
  · have hmem : '\n' ∈ after := List.mem_of_head? hends
    have hpos := List.count_pos_iff.2 hmem
    omega

namespace SourceMap

/-! ## The table from a pass over the text -/

/-- The starts of the lines behind the newlines of some characters, in characters and in bytes,
where so many of both come before the first of them. -/
def startsBehind (chars bytes : Nat) : List Char → List (Nat × Nat)
  | [] => []
  | c :: s =>
      if c = '\n' then (chars + 1, bytes + 1) :: startsBehind (chars + 1) (bytes + 1) s
      else startsBehind (chars + 1) (bytes + c.utf8Size) s

theorem startsBehind_append {p : List Char} (hp : '\n' ∉ p) (s : List Char) (chars bytes : Nat) :
    startsBehind chars bytes (p ++ s) =
      startsBehind (chars + p.length) (bytes + byteLength p) s := by
  induction p generalizing chars bytes with
  | nil => rfl
  | cons c p ih =>
      have hc : c ≠ '\n' := fun heq => hp (by simp [heq])
      have hrest : '\n' ∉ p := fun hmem => hp (List.mem_cons_of_mem c hmem)
      rw [List.cons_append, startsBehind, if_neg hc, ih hrest, byteLength_cons, List.length_cons]
      congr 1 <;> omega

theorem starts_rows (s : List Char) (start byteStart : Nat) :
    (rows start byteStart (pieces s)).map (fun l => (l.start, l.byteStart)) =
      (start, byteStart) :: startsBehind start byteStart s := by
  induction s using pieces_induction generalizing start byteStart with
  | last s hs =>
      have hnone := startsBehind_append hs [] start byteStart
      rw [List.append_nil] at hnone
      rw [pieces_of_not_mem hs, hnone]
      rfl
  | cut p rest hp ih =>
      rw [pieces_append_newline hp, rows, List.map_cons, ih, startsBehind_append hp, startsBehind,
        if_pos rfl]

/-- The table is the one that a pass over the text fills. -/
theorem starts_eq (text : String) :
    (ofText text).lines.toList.map (fun l => (l.start, l.byteStart)) =
      (0, 0) :: startsBehind 0 0 text.toList := by
  rw [toList_lines, starts_rows]

/-! ## The starts of a line -/

variable {text : String} {i : Nat} {l : Line}

theorem length_lines (text : String) :
    (ofText text).lines.toList.length = text.toList.count '\n' + 1 := by
  rw [Array.length_toList, ← length_pieces]
  exact ofText_size text

theorem exists_getElem?_of_mem (h : l ∈ (ofText text).lines.toList) :
    ∃ i : Nat, (ofText text).lines[i]? = some l := by
  obtain ⟨i, hi⟩ := List.mem_iff_getElem?.1 h
  exact ⟨i, by rwa [Array.getElem?_toList] at hi⟩

/-- Both starts of a line name one place of the text. -/
theorem charsBefore?_byteStart (h : (ofText text).lines[i]? = some l) :
    charsBefore? text l.byteStart = some l.start := by
  obtain ⟨before, after, hstands⟩ := stands_of_getElem? h
  rw [hstands.byteStart_eq, hstands.start_eq]
  exact charsBefore?_of_toList_eq hstands.eq

theorem byteStart_eq (h : (ofText text).lines[i]? = some l) :
    l.byteStart = byteLength (text.toList.take l.start) := by
  obtain ⟨before, after, hstands⟩ := stands_of_getElem? h
  rw [hstands.byteStart_eq, hstands.start_eq, hstands.eq, List.take_left]

theorem starts_pairwise (text : String) :
    (ofText text).lines.toList.Pairwise fun l m => l.start < m.start :=
  (lines_pairwise text).imp fun h => by omega

theorem byteStarts_pairwise (text : String) :
    (ofText text).lines.toList.Pairwise fun l m => l.byteStart < m.byteStart := by
  refine (starts_pairwise text).imp_of_mem ?_
  intro l m hl hm hlt
  obtain ⟨i, hi⟩ := exists_getElem?_of_mem hl
  obtain ⟨j, hj⟩ := exists_getElem?_of_mem hm
  have hstop := stop_le_length hj
  rw [byteStart_eq hi, byteStart_eq hj]
  exact byteLength_take_lt hlt (by omega)

/-! ## The bytes of a line -/

/-- The byte behind the line of a number: that of the newline in front of the next line, or the
end of the text. -/
def byteStop (m : SourceMap) (number : Nat) : Nat :=
  match m.lines[number]? with
  | some next => next.byteStart - 1
  | none => m.text.utf8ByteSize

/-- A line by its number, cut out of the text between its bytes. There may be no such line, and
the text may not be cut there. -/
def lineSlice? (m : SourceMap) (number : Nat) : Option (Option String) :=
  (m.line? number).map fun l => slice? m.text l.byteStart (m.byteStop number)

/-- Between two lines there is one byte. -/
theorem byteStart_succ_rows {start byteStart : Nat} {ps : List (List Char)} {i : Nat} {l m : Line}
    (hl : (rows start byteStart ps)[i]? = some l)
    (hm : (rows start byteStart ps)[i + 1]? = some m) :
    m.byteStart = l.byteStart + byteLength l.chars + 1 := by
  induction ps generalizing start byteStart i with
  | nil => simp [rows] at hl
  | cons p ps ih =>
      rw [rows] at hl hm
      rw [List.getElem?_cons_succ] at hm
      cases i with
      | zero =>
          rw [List.getElem?_cons_zero, Option.some.injEq] at hl
          cases ps with
          | nil => simp [rows] at hm
          | cons q ps =>
              rw [rows, List.getElem?_cons_zero, Option.some.injEq] at hm
              rw [← hl, ← hm]
      | succ i =>
          rw [List.getElem?_cons_succ] at hl
          exact ih hl hm

theorem byteStop_eq (h : (ofText text).lines[i]? = some l) :
    (ofText text).byteStop (i + 1) = l.byteStart + byteLength l.chars := by
  unfold byteStop
  cases hm : (ofText text).lines[i + 1]? with
  | some m =>
      rw [← Array.getElem?_toList, toList_lines] at h hm
      have hnext := byteStart_succ_rows h hm
      dsimp only
      omega
  | none =>
      obtain ⟨before, after, hstands⟩ := stands_of_getElem? h
      have hlast : text.toList.count '\n' ≤ i := by
        have hsize := Array.getElem?_eq_none_iff.1 hm
        have hlength := length_lines text
        rw [Array.length_toList] at hlength
        omega
      have hafter : after = [] := hstands.eq_nil_of_last hlast
      have hbytes := congrArg byteLength hstands.eq
      rw [byteLength_toList, hafter, List.append_nil, byteLength_append,
        ← hstands.byteStart_eq] at hbytes
      exact hbytes

/-- The bytes of a line are its characters. -/
theorem slice?_line (h : (ofText text).lines[i]? = some l) :
    slice? text l.byteStart ((ofText text).byteStop (i + 1)) = some (String.ofList l.chars) := by
  obtain ⟨before, after, hstands⟩ := stands_of_getElem? h
  rw [byteStop_eq h, hstands.byteStart_eq]
  exact slice?_of_toList_eq hstands.eq

/-! ## All lines -/

/-- The numbers of lines go from one to the number of lines. -/
theorem line?_eq (m : SourceMap) (number : Nat) :
    m.line? number =
      if 1 ≤ number ∧ number ≤ m.lineCount then m.lines[number - 1]? else none := by
  unfold line? lineCount
  by_cases hzero : number = 0
  · rw [if_pos hzero, if_neg (by omega)]
  · rw [if_neg hzero]
    by_cases hle : number ≤ m.lines.size
    · rw [if_pos ⟨by omega, hle⟩]
    · rw [if_neg (fun h => hle h.2), Array.getElem?_eq_none_iff]
      omega

theorem map_chars_getElem? (text : String) (i : Nat) :
    (ofText text).lines[i]?.map (·.chars) = (pieces text.toList)[i]? := by
  rw [← Array.getElem?_toList, toList_lines, ← List.getElem?_map, map_chars_rows]

/-- A line is shown as its piece of the text without carriage returns at its end. -/
theorem map_shown_getElem? (text : String) (i : Nat) :
    (ofText text).lines[i]?.map Line.shown = (pieces text.toList)[i]?.map dropReturns := by
  rw [← map_chars_getElem?, Option.map_map]
  rfl

/-- A line is cut out of the text as its piece. -/
theorem map_slice?_getElem? (text : String) (i : Nat) :
    ((ofText text).lines[i]?.map fun l =>
      slice? text l.byteStart ((ofText text).byteStop (i + 1))) =
      (pieces text.toList)[i]?.map fun piece => some (String.ofList piece) := by
  rw [← map_chars_getElem?, Option.map_map]
  cases h : (ofText text).lines[i]? with
  | none => rfl
  | some l =>
      rw [Option.map_some, Option.map_some, slice?_line h]
      rfl

/-- The table of a text has a row for each of its lines, which are one more than its newlines. It
is the table that a pass over the characters fills. Its starts ascend strictly, in characters and
in bytes, and both starts of a row name one place between characters. A line by its number is a
piece of the text between newlines, and is shown without the carriage returns that end the piece;
only the numbers from one to the number of lines are those of lines. Cutting the lines out of the
text between their bytes never fails and gives the pieces, and these, joined with newlines, are
the text. -/
theorem ofText_tables (text : String) :
    let m := ofText text
    let starts := m.lines.toList.map (·.start)
    let byteStarts := m.lines.toList.map (·.byteStart)
    let parts := pieces text.toList
    (m.lineCount = text.toList.count '\n' + 1 ∧ starts.length = m.lineCount ∧
      byteStarts.length = m.lineCount ∧ parts.length = m.lineCount) ∧
    starts.zip byteStarts = (0, 0) :: startsBehind 0 0 text.toList ∧
    (starts.Pairwise (· < ·) ∧ byteStarts.Pairwise (· < ·)) ∧
    byteStarts.map (charsBefore? text) = starts.map some ∧
    (∀ number, (m.line? number).map Line.shown =
      if 1 ≤ number ∧ number ≤ m.lineCount then parts[number - 1]?.map dropReturns else none) ∧
    (∀ number, m.lineSlice? number =
      if 1 ≤ number ∧ number ≤ m.lineCount then
        parts[number - 1]?.map fun piece => some (String.ofList piece)
      else none) ∧
    ['\n'].intercalate parts = text.toList := by
  have hcount : (ofText text).lineCount = text.toList.count '\n' + 1 := by
    rw [ofText_size, length_pieces]
  refine ⟨⟨hcount, ?_, ?_, (ofText_size text).symm⟩, ?_, ⟨?_, ?_⟩, ?_, ?_, ?_,
    intercalate_pieces text.toList⟩
  · rw [List.length_map, Array.length_toList, lineCount]
  · rw [List.length_map, Array.length_toList, lineCount]
  · rw [List.zip_map']
    exact starts_eq text
  · exact List.pairwise_map.2 (starts_pairwise text)
  · exact List.pairwise_map.2 (byteStarts_pairwise text)
  · rw [List.map_map, List.map_map]
    apply List.map_congr_left
    intro l hl
    obtain ⟨i, hi⟩ := exists_getElem?_of_mem hl
    exact charsBefore?_byteStart hi
  · intro number
    rw [line?_eq]
    split
    · exact map_shown_getElem? text (number - 1)
    · rfl
  · intro number
    rw [lineSlice?, line?_eq]
    split
    · next hnumber =>
        have hsucc : number - 1 + 1 = number := Nat.sub_add_cancel hnumber.1
        have hslice := map_slice?_getElem? text (number - 1)
        rw [hsucc] at hslice
        exact hslice
    · rfl

/-- A carriage return and letters of two bytes, in front of an empty last line. -/
example : (ofText "é\r\nà\n").lineSlice? 1 = some (some "é\r") ∧
    (ofText "é\r\nà\n").lineSlice? 2 = some (some "à") ∧
    (ofText "é\r\nà\n").lineSlice? 3 = some (some "") ∧
    (ofText "é\r\nà\n").lineSlice? 4 = none := by
  decide

end SourceMap

end Glossary
