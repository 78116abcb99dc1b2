import Glossary.Proofs.Analysis.Lookup
import Glossary.Proofs.Source.LineTable
import Glossary.Render
import Glossary.Text.Digit

/-!
# Hovering at the places of a listing

A listing has one row for each match of an analysis, and a row names a line and
a range of columns. These are columns of one line of the text as it is shown:
a token has no blanks, and both the newline that ends a line and the carriage
returns that are not shown are blank. So line and columns lead back to offsets
within the match, and hovering there explains that match.

Rows are read by cutting them at blanks. The places and the names of categories
have none, and neither has a token, so every row falls into its three fields.

## Main results

* `Store.standsOn_of_analyze` — every match stands on one line.
* `Match.StandsOn.shows` — the row of a match has its three fields.
* `Store.hover?_listing` — hovering at the places that a listing names, and at
  the others.
-/

namespace Glossary

open Text

/-! ## Fields of a row -/

namespace Text

/-- What stands between blanks. -/
def fields (row : List Char) : List (List Char) :=
  (row.splitOnP isBlank).filter (· ≠ [])

@[simp] theorem fields_nil : fields [] = [] := rfl

/-- A blank separates fields, and belongs to none. -/
theorem fields_append_blank {c : Char} (hc : isBlank c = true) (s t : List Char) :
    fields (s ++ c :: t) = fields s ++ fields t := by
  unfold fields
  rw [List.splitOnP_append_cons s t hc, List.filter_append]

theorem fields_cons_blank {c : Char} (hc : isBlank c = true) (s : List Char) :
    fields (c :: s) = fields s :=
  fields_append_blank hc [] s

/-- A text without blanks is one field. -/
theorem fields_of_solid {s : List Char} (hs : s ≠ []) (h : ∀ c ∈ s, isBlank c = false) :
    fields s = [s] := by
  rw [fields, List.splitOnP_eq_singleton h]
  simp [hs]

theorem fields_spaces_append (n : Nat) (s : List Char) :
    fields (List.replicate n ' ' ++ s) = fields s := by
  induction n with
  | zero => rfl
  | succ n ih =>
      rw [List.replicate_succ, List.cons_append, fields_cons_blank rfl, ih]

theorem fields_append_spaces (n : Nat) (s : List Char) :
    fields (s ++ List.replicate n ' ') = fields s := by
  cases n with
  | zero => rw [List.replicate_zero, List.append_nil]
  | succ n =>
      have hspaces := fields_spaces_append n []
      rw [List.append_nil] at hspaces
      rw [List.replicate_succ, fields_append_blank rfl, hspaces, fields_nil, List.append_nil]

/-- A column keeps the fields of its text. -/
@[simp] theorem fields_padded (a : Alignment) (width : Nat) (s : List Char) :
    fields (padded a width s) = fields s := by
  rw [padded]
  rw [fields_append_spaces, fields_spaces_append]

/-- A column has a newline only if its text has one. -/
theorem newline_not_mem_padded {s : List Char} (h : '\n' ∉ s) (a : Alignment) (width : Nat) :
    '\n' ∉ padded a width s := by
  simp [padded, h]

theorem newline_not_mem_of_solid {s : List Char} (h : ∀ c ∈ s, isBlank c = false) :
    '\n' ∉ s := by
  intro hmem
  cases h '\n' hmem

theorem solid_of_mem_toString (n : Nat) : ∀ c ∈ (toString n).toList, isBlank c = false := by
  intro c hc
  have hdigit := isDigit_of_mem_toString hc
  exact Token.isBlank_of_isWordPart (by simp [Token.isWordPart, Char.isAlphanum, hdigit])

end Text

/-- No name of a category is empty or has a blank. -/
theorem Category.name_solid (c : Category) :
    c.name.toList ≠ [] ∧ ∀ d ∈ c.name.toList, isBlank d = false := by
  have hall : (c.name.toList.all fun d => !isBlank d) = true := by cases c <;> decide
  refine ⟨by cases c <;> decide, ?_⟩
  intro d hd
  simpa using List.all_eq_true.1 hall d hd

/-! ## Rows -/

namespace Render

/-- A place on one line, as a listing writes it. -/
def place (line first behind : Nat) : List Char := s!"{line}:{first}-{behind}".toList

theorem place_eq (line first behind : Nat) :
    place line first behind = (toString line).toList ++ ':' :: ((toString first).toList ++
      '-' :: (toString behind).toList) := by
  simp [place]
  rfl

theorem place_solid (line first behind : Nat) :
    place line first behind ≠ [] ∧ ∀ c ∈ place line first behind, isBlank c = false := by
  rw [place_eq]
  refine ⟨by simp, ?_⟩
  intro c hc
  simp only [List.mem_append, List.mem_cons] at hc
  rcases hc with hc | rfl | hc | rfl | hc
  · exact solid_of_mem_toString line c hc
  · rfl
  · exact solid_of_mem_toString first c hc
  · rfl
  · exact solid_of_mem_toString behind c hc

/-- The line of a match without the newline that ends it. -/
def row (map : SourceMap) (m : Match) : List Char :=
  padded .left 12 (map.span m.start m.stop).display.toList ++
    ' ' :: (padded .left 18 m.category.name.toList ++ ' ' :: m.text.toList)

theorem toList_listingLine (map : SourceMap) (m : Match) :
    (listingLine map m).toList = row map m ++ ['\n'] := by
  simp [listingLine, row, column]

/-- A listing of rows without newlines is cut into them at its newlines. -/
theorem pieces_listing {a : Analysis} {map : SourceMap}
    (h : ∀ m ∈ a.found.toList, '\n' ∉ row map m) :
    pieces (listing a map).toList = a.found.toList.map (row map) ++ [[]] := by
  rw [listing, String.toList_join, List.flatMap_map]
  generalize a.found.toList = ms at h
  induction ms with
  | nil => rfl
  | cons m ms ih =>
      have hms := ih fun n hn => h n (by simp [hn])
      rw [List.flatMap_cons, toList_listingLine, List.append_assoc, List.singleton_append,
        pieces_append_newline (h m (by simp)), hms]
      rfl

/-- A row that shows a match on one line of the text. Line and columns fit into
the 32 bits that they are read back with. -/
structure Shows (map : SourceMap) (m : Match) (row : List Char) (line first behind : Nat) :
    Prop where
  fields_eq : fields row = [place line first behind, m.category.name.toList, m.text.toList]
  start_eq : map.position m.start = ⟨m.start, line, first⟩
  stop_eq : map.position m.stop = ⟨m.stop, line, behind⟩
  behind_eq : behind = first + m.length
  length_eq : m.text.toList.length = m.length
  line_lt : line < UInt32.size
  behind_lt : behind < UInt32.size

end Render

/-! ## Matches on lines -/

/-- The match is its own text, and it covers characters of `s` that are not
blank. -/
structure Match.SolidIn (m : Match) (s : List Char) : Prop where
  start_lt_stop : m.start < m.stop
  solid : ∀ o, m.start ≤ o → o < m.stop → ∃ c, s[o]? = some c ∧ isBlank c = false
  length_eq : m.text.toList.length = m.length
  text_solid : ∀ c ∈ m.text.toList, isBlank c = false

theorem Match.SolidIn.text_ne_nil {m : Match} {s : List Char} (h : m.SolidIn s) :
    m.text.toList ≠ [] := by
  intro hnil
  have hlength := h.length_eq
  have hlt := h.start_lt_stop
  rw [hnil, Match.length, List.length_nil] at hlength
  omega

/-- The line that a match stands on, and where it begins there. -/
structure Match.StandsOn (m : Match) (map : SourceMap) (i k : Nat) (l : Line) : Prop where
  line : map.lines[i]? = some l
  start_eq : m.start = l.start + k
  stop_eq : m.stop = l.start + (k + m.length)
  shown : k + m.length ≤ l.shown.length

/-- The span of a match lies on its line. -/
theorem Match.StandsOn.span_eq {m : Match} {text : String} {i k : Nat} {l : Line}
    (h : m.StandsOn (.ofText text) i k l) :
    (SourceMap.ofText text).span m.start m.stop =
      ⟨⟨m.start, i + 1, k + 1⟩, ⟨m.stop, i + 1, k + 1 + m.length⟩⟩ := by
  have hshown := h.shown
  have hchars := SourceMap.length_shown_le l
  have hfirst := SourceMap.position_eq h.line (show k ≤ l.chars.length by omega)
  have hbehind := SourceMap.position_eq h.line (show k + m.length ≤ l.chars.length by omega)
  rw [← h.start_eq] at hfirst
  rw [← h.stop_eq, Nat.add_right_comm] at hbehind
  rw [SourceMap.span, hfirst, hbehind]

theorem Match.StandsOn.row_eq {m : Match} {text : String} {i k : Nat} {l : Line}
    (h : m.StandsOn (.ofText text) i k l) :
    Render.row (.ofText text) m =
      padded .left 12 (Render.place (i + 1) (k + 1) (k + 1 + m.length)) ++
        ' ' :: (padded .left 18 m.category.name.toList ++ ' ' :: m.text.toList) := by
  rw [Render.row, h.span_eq]
  simp [Span.display, Render.place]

/-- The row of a match has its three fields. -/
theorem Match.StandsOn.shows {m : Match} {text : String} {i k : Nat} {l : Line}
    (h : m.StandsOn (.ofText text) i k l) (hm : m.SolidIn text.toList)
    (hsize : text.utf8ByteSize ≤ Limits.maxFileSize) :
    Render.Shows (.ofText text) m (Render.row (.ofText text) m) (i + 1) (k + 1)
      (k + 1 + m.length) := by
  have hspan := Span.mk.inj h.span_eq
  have hshown := h.shown
  have hchars := SourceMap.length_shown_le l
  have hindex := SourceMap.index_le_start h.line
  have hline := SourceMap.stop_le_length h.line
  have hbytes := length_toList_le text
  have hlimit : Limits.maxFileSize + 1 < UInt32.size := by decide
  have hpos : 0 < m.length := by
    rw [← hm.length_eq]
    exact List.length_pos_iff.2 hm.text_ne_nil
  refine ⟨?_, hspan.1, hspan.2, rfl, hm.length_eq, by omega, by omega⟩
  obtain ⟨hplace, hplacesolid⟩ := Render.place_solid (i + 1) (k + 1) (k + 1 + m.length)
  obtain ⟨hname, hnamesolid⟩ := m.category.name_solid
  rw [h.row_eq, fields_append_blank rfl, fields_append_blank rfl, fields_padded, fields_padded,
    fields_of_solid hplace hplacesolid, fields_of_solid hname hnamesolid,
    fields_of_solid hm.text_ne_nil hm.text_solid]
  rfl

theorem Match.StandsOn.newline_not_mem_row {m : Match} {text : String} {i k : Nat} {l : Line}
    (h : m.StandsOn (.ofText text) i k l) (hm : m.SolidIn text.toList) :
    '\n' ∉ Render.row (.ofText text) m := by
  have hplace := newline_not_mem_of_solid
    (Render.place_solid (i + 1) (k + 1) (k + 1 + m.length)).2
  have hname := newline_not_mem_of_solid m.category.name_solid.2
  have htext := newline_not_mem_of_solid hm.text_solid
  rw [h.row_eq]
  simp [newline_not_mem_padded hplace, newline_not_mem_padded hname, htext]

/-- A column of a match leads to an offset that the match covers. -/
theorem Match.StandsOn.offset?_eq {m : Match} {map : SourceMap} {i k : Nat} {l : Line}
    (h : m.StandsOn map i k l) {column : Nat} (hfirst : k + 1 ≤ column)
    (hbehind : column < k + 1 + m.length) :
    ∃ o, map.offset? (i + 1) column = some o ∧ m.covers o = true := by
  have hstart := h.start_eq
  have hstop := h.stop_eq
  have hshown := h.shown
  refine ⟨l.start + (column - 1), ?_, Match.covers_iff.2 ⟨by omega, by omega⟩⟩
  exact SourceMap.offset?_eq_some_iff.2
    ⟨i, column - 1, l, rfl, by omega, h.line, by omega, rfl⟩

/-- A line and a column that lead to an offset of a match lie in its row. -/
theorem Match.StandsOn.line_eq {m : Match} {text : String} {i k : Nat} {l : Line}
    (h : m.StandsOn (.ofText text) i k l) {line column o : Nat}
    (ho : (SourceMap.ofText text).offset? line column = some o) (hcov : m.covers o = true) :
    line = i + 1 ∧ k + 1 ≤ column ∧ column < k + 1 + m.length := by
  obtain ⟨j, n, p, rfl, rfl, hp, hn, rfl⟩ := SourceMap.offset?_eq_some_iff.1 ho
  rw [Match.covers_iff, h.start_eq, h.stop_eq] at hcov
  have hshown := h.shown
  have hchars := SourceMap.length_shown_le l
  have hpchars := SourceMap.length_shown_le p
  -- the offset lies in both lines, and only one line holds it
  have hj : (SourceMap.ofText text).lineIndex (p.start + n) = j :=
    SourceMap.lineIndex_eq hp (by omega) (by omega)
  have hi : (SourceMap.ofText text).lineIndex (p.start + n) = i :=
    SourceMap.lineIndex_eq h.line (by omega) (by omega)
  obtain rfl : j = i := hj.symm.trans hi
  obtain rfl : p = l := by
    rw [← Option.some.injEq, ← hp, ← h.line]
  exact ⟨rfl, by omega, by omega⟩

/-! ## Listings -/

namespace Store

theorem solidIn_of_analyze {s : Store} {text : String} {a : Analysis}
    (h : s.analyze text = .ok a) {m : Match} (hm : m ∈ a.found.toList) :
    m.SolidIn text.toList := by
  rw [found_of_analyze h] at hm
  obtain ⟨t, ht, rfl⟩ := List.mem_map.1 hm
  have hts := (Cursor.tokenizes_iff (Cursor.at_ofText text) _).2 rfl
  refine ⟨(Cursor.chars_le_start t ht).2, ?_, (hts.span t ht).length_toList,
    (hts.lexeme t ht).solid⟩
  intro o hstart hstop
  have hcov : t.covers o = true := Token.covers_iff.2 ⟨hstart, hstop⟩
  exact (Cursor.exists_covers_ofText_iff text o).1 ⟨t, ht, hcov⟩

/-- Every match of an analysis stands on one line, where it is shown. -/
theorem standsOn_of_analyze {s : Store} {text : String} {a : Analysis}
    (h : s.analyze text = .ok a) {m : Match} (hm : m ∈ a.found.toList) :
    ∃ i k l, m.StandsOn (.ofText text) i k l := by
  have hsolid := solidIn_of_analyze h hm
  have hlt := hsolid.start_lt_stop
  have hlength : m.length = m.stop - m.start := rfl
  obtain ⟨i, k, l, hl, hstart, hstop⟩ := SourceMap.exists_shown_of_solid hlt hsolid.solid
  exact ⟨i, k, l, hl, hstart, by omega, by omega⟩

/-- A row for each match, in order, which shows its match; hovering at its
columns explains that match, and hovering at any place that no row names finds
nothing. -/
theorem hover?_listing (s : Store) (text : String) (a : Analysis)
    (hsize : text.utf8ByteSize ≤ Limits.maxFileSize) (h : s.analyze text = .ok a) :
    ∃ rows : List (List Char),
      pieces (Render.listing a (.ofText text)).toList = rows ++ [[]] ∧
      rows.length = a.size ∧
      (∀ (n : Nat) (m : Match), a.found[n]? = some m → ∃ row line first behind,
        rows[n]? = some row ∧ Render.Shows (.ofText text) m row line first behind ∧
        ∀ column, first ≤ column → column < behind →
          ∃ o, (SourceMap.ofText text).offset? line column = some o ∧
            m.start ≤ o ∧ o < m.stop ∧ s.hover? text o = .ok (some m)) ∧
      (∀ line column o, (SourceMap.ofText text).offset? line column = some o →
        (∀ row ∈ rows, ∀ first behind,
          (fields row).head? = some (Render.place line first behind) →
          ¬ (first ≤ column ∧ column < behind)) →
        s.hover? text o = .ok none) := by
  have hhover := hover?_eq_ok_at? h
  have hordered := ordered_of_analyze h
  refine ⟨a.found.toList.map (Render.row (.ofText text)), ?_, by simp [Analysis.size], ?_, ?_⟩
  · apply Render.pieces_listing
    intro m hm
    obtain ⟨i, k, l, hline⟩ := standsOn_of_analyze h hm
    exact hline.newline_not_mem_row (solidIn_of_analyze h hm)
  · intro n m hn
    have hm : m ∈ a.found.toList := Array.mem_toList_iff.2 (Array.mem_of_getElem? hn)
    obtain ⟨i, k, l, hline⟩ := standsOn_of_analyze h hm
    refine ⟨_, i + 1, k + 1, k + 1 + m.length, ?_,
      hline.shows (solidIn_of_analyze h hm) hsize, ?_⟩
    · rw [List.getElem?_map, Array.getElem?_toList, hn]
      rfl
    · intro column hfirst hbehind
      obtain ⟨o, ho, hcov⟩ := hline.offset?_eq hfirst hbehind
      obtain ⟨hstart, hstop⟩ := Match.covers_iff.1 hcov
      refine ⟨o, ho, hstart, hstop, ?_⟩
      rw [hhover, hordered.at?_eq_some_iff.2 ⟨n, hn, hcov⟩]
  · intro line column o ho hrows
    rw [hhover, Except.ok.injEq, hordered.at?_eq_none_iff]
    intro m hm
    apply Bool.eq_false_iff.2
    intro hcov
    obtain ⟨i, k, l, hline⟩ := standsOn_of_analyze h hm
    obtain ⟨rfl, hfirst, hbehind⟩ := hline.line_eq ho hcov
    have hshows := hline.shows (solidIn_of_analyze h hm) hsize
    refine hrows _ (List.mem_map_of_mem hm) (k + 1) (k + 1 + m.length) ?_ ⟨hfirst, hbehind⟩
    rw [hshows.fields_eq]
    rfl

/-- The last word before a carriage return that ends the text, on the second line. -/
theorem hover?_listing_returns :
    "é\r\n x9\r".utf8ByteSize ≤ Limits.maxFileSize ∧
    empty.analyze "é\r\n x9\r" = .ok ⟨#[
      ⟨"é", .identifier, unknownDescription, none, 0, 1⟩,
      ⟨"x9", .identifier, unknownDescription, none, 4, 6⟩]⟩ ∧
    ∃ row line first behind,
      Render.Shows (.ofText "é\r\n x9\r")
        ⟨"x9", .identifier, unknownDescription, none, 4, 6⟩ row line first behind ∧
      ∀ column, first ≤ column → column < behind →
        ∃ o, (SourceMap.ofText "é\r\n x9\r").offset? line column = some o ∧
          4 ≤ o ∧ o < 6 ∧ empty.hover? "é\r\n x9\r" o =
            .ok (some ⟨"x9", .identifier, unknownDescription, none, 4, 6⟩) := by
  have hanalyze : empty.analyze "é\r\n x9\r" = .ok ⟨#[
      ⟨"é", .identifier, unknownDescription, none, 0, 1⟩,
      ⟨"x9", .identifier, unknownDescription, none, 4, 6⟩]⟩ := by
    have htokens : Token.tokenize "é\r\n x9\r" =
        .ok #[⟨"é", 0, 1, 0, 2⟩, ⟨"x9", 4, 6, 5, 7⟩] := by decide +kernel
    rw [analyze_empty htokens]
    simp
  refine ⟨by decide, hanalyze, ?_⟩
  obtain ⟨rows, -, -, hrows, -⟩ := hover?_listing empty _ _ (by decide) hanalyze
  obtain ⟨row, line, first, behind, -, hshows, hhover⟩ := hrows 1 _ rfl
  exact ⟨row, line, first, behind, hshows, hhover⟩

end Store

end Glossary
