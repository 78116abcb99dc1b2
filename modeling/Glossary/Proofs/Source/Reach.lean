import Glossary.Proofs.Source.Walk
import Glossary.Proofs.Text.Trim

/-!
# The offsets that line and column reach

Line and column lead to an offset, and its position leads back. The other way goes
wrong only behind a carriage return at the end of a line: such carriage returns
count for the offsets, but a line is shown without them, and its columns end right
behind what is shown. All other offsets are reached, the end of every line and of
the text included.

The lines are the pieces of the text between newlines, so all of this can be said
of the text alone, without its table.

## Main results

* `SourceMap.pieces_of_getElem?` — the rows of the table are the pieces of the text.
* `Line.Stands.behindReturn_iff` — which places of a line are not shown.
* `SourceMap.offset?_inverts` — line and column undo positions, and where they do not.
-/

namespace Glossary

open Text

/-! ## Places behind the end of what is shown -/

/-- The character before the offset is a carriage return, and so are all others up to the end
of the line. -/
def BehindReturn (s : List Char) (offset : Nat) : Prop :=
  (s.take offset).getLast? = some '\r' ∧ ∀ c ∈ (s.drop offset).takeWhile (· ≠ '\n'), c = '\r'

instance (s : List Char) (offset : Nat) : Decidable (BehindReturn s offset) :=
  @instDecidableAnd _ _ inferInstance (List.decidableBAll _ _)

/-- What comes behind a place of a line, up to the end of the line. -/
theorem Line.Stands.takeWhile_drop_eq {l : Line} {s before after : List Char} {i k : Nat}
    (h : l.Stands s before after i) (hk : k ≤ l.chars.length) :
    (s.drop (l.start + k)).takeWhile (· ≠ '\n') = l.chars.drop k := by
  have hdrop : s.drop (l.start + k) = l.chars.drop k ++ after := by
    rw [h.eq, h.start_eq, List.drop_length_add_append, List.drop_append_of_le_length hk]
  have hline : ∀ c ∈ l.chars.drop k, decide (c ≠ '\n') = true := by
    intro c hc
    rw [decide_eq_true_eq]
    rintro rfl
    exact h.closed (List.mem_of_mem_drop hc)
  have hstop : ∀ c, after.head? = some c → decide (c ≠ '\n') = false := by
    intro c hc
    rcases h.ends with rfl | hends
    · cases hc
    · obtain rfl : '\n' = c := Option.some.inj (hends.symm.trans hc)
      rfl
  rw [hdrop]
  exact (run_eq hline hstop).1

/-- The places of a line that are not shown lie behind one of the carriage returns that end it. -/
theorem Line.Stands.behindReturn_iff {l : Line} {s before after : List Char} {i k : Nat}
    (h : l.Stands s before after i) (hk : k ≤ l.chars.length) :
    BehindReturn s (l.start + k) ↔ l.shown.length < k := by
  rw [BehindReturn, h.takeWhile_drop_eq hk, h.take_eq hk]
  cases k with
  | zero =>
      -- in front of a line there is a newline or nothing
      rw [List.take_zero, List.append_nil]
      rcases h.opens with rfl | hopens
      · simp
      · simp [hopens]
  | succ j =>
      have hlast : (before ++ l.chars.take (j + 1)).getLast? = some l.chars[j] := by
        rw [← List.take_append_getElem hk, ← List.append_assoc, List.getLast?_concat]
      have hfrom : (∀ c ∈ l.chars.drop j, c = '\r') ↔
          l.chars[j] = '\r' ∧ ∀ c ∈ l.chars.drop (j + 1), c = '\r' := by
        rw [List.drop_eq_getElem_cons hk, List.forall_mem_cons]
      rw [hlast, Option.some.injEq, ← hfrom, ← length_dropReturns_le_iff, Nat.lt_succ_iff]
      rfl

namespace SourceMap

/-! ## Lines and pieces -/

theorem map_chars_rows (start byteStart : Nat) (ps : List (List Char)) :
    (rows start byteStart ps).map (·.chars) = ps := by
  induction ps generalizing start byteStart with
  | nil => rfl
  | cons p ps ih => rw [rows, List.map_cons, ih]

/-- The rows of the table are the pieces of the text. -/
theorem pieces_of_getElem? {text : String} {i : Nat} {l : Line}
    (h : (ofText text).lines[i]? = some l) : (pieces text.toList)[i]? = some l.chars := by
  rw [← Array.getElem?_toList, toList_lines] at h
  rw [← map_chars_rows 0 0 (pieces text.toList), List.getElem?_map, h]
  rfl

/-! ## Line and column of a place -/

/-- A place of a line is reached if it is shown. -/
theorem offset?_of_getElem? {m : SourceMap} {i : Nat} {l : Line} (h : m.lines[i]? = some l)
    (k : Nat) : m.offset? (i + 1) (k + 1) =
      if k ≤ l.shown.length then some (l.start + k) else none := by
  unfold offset? line?
  simp only [Nat.add_one_ne_zero, if_false, Nat.add_sub_cancel, h]
  by_cases hk : k ≤ l.shown.length
  · rw [if_pos hk, if_neg (Nat.not_lt.2 hk)]
  · rw [if_neg hk, if_pos (Nat.lt_of_not_ge hk)]

/-- Every offset up to the end is a place of a line. -/
theorem exists_place {text : String} {offset : Nat} (h : offset ≤ (ofText text).charCount) :
    ∃ (i k : Nat) (l : Line), (ofText text).lines[i]? = some l ∧ k ≤ l.chars.length ∧
      offset = l.start + k ∧ (ofText text).position offset = ⟨offset, i + 1, k + 1⟩ := by
  obtain ⟨i, l, hl, hstart, hstop⟩ := exists_line h
  obtain ⟨k, rfl⟩ := Nat.exists_eq_add_of_le hstart
  have hk : k ≤ l.chars.length := by omega
  exact ⟨i, k, l, hl, hk, rfl, position_eq hl hk⟩

/-- The offset that line and column lead to has this line and this column. -/
theorem position_of_offset? {text : String} {line column offset : Nat}
    (h : (ofText text).offset? line column = some offset) :
    offset ≤ (ofText text).charCount ∧ (ofText text).position offset = ⟨offset, line, column⟩ := by
  obtain ⟨i, k, l, rfl, rfl, hl, hk, rfl⟩ := offset?_eq_some_iff.1 h
  have hchars := length_shown_le l
  have hlength : l.start + l.chars.length ≤ (ofText text).charCount := stop_le_length hl
  exact ⟨by omega, position_eq hl (by omega)⟩

/-- The position of an offset leads back to it where the offset is shown. -/
theorem offset?_position_iff {text : String} {offset : Nat}
    (h : offset ≤ (ofText text).charCount) :
    (ofText text).offset? ((ofText text).position offset).line
      ((ofText text).position offset).column = some offset ↔ ¬ BehindReturn text.toList offset := by
  obtain ⟨i, k, l, hl, hk, rfl, hposition⟩ := exists_place h
  obtain ⟨before, after, hstands⟩ := stands_of_getElem? hl
  rw [hposition, offset?_of_getElem? hl, hstands.behindReturn_iff hk]
  by_cases hshown : k ≤ l.shown.length
  · simp [hshown]
  · simp [hshown]

/-- The offsets that no line and column lead to lie behind a carriage return that ends a line,
or past the end of the text. -/
theorem exists_offset?_iff {text : String} {offset : Nat} :
    (∃ line column, (ofText text).offset? line column = some offset) ↔
      offset ≤ (ofText text).charCount ∧ ¬ BehindReturn text.toList offset := by
  constructor
  · rintro ⟨line, column, h⟩
    obtain ⟨hle, hposition⟩ := position_of_offset? h
    refine ⟨hle, (offset?_position_iff hle).1 ?_⟩
    rw [hposition]
    exact h
  · rintro ⟨hle, hnot⟩
    exact ⟨_, _, (offset?_position_iff hle).2 hnot⟩

/-- Line and column of an offset that they lead to are those of its position. The position of
an offset leads back to it if the column does not lie behind the line as it is shown, and
nowhere otherwise. So up to the end only the offsets behind a carriage return at the end of
their line are reached by no line and column. All numbers fit into 32 bits. -/
theorem offset?_inverts (text : String) (hfew : text.toList.length < UInt32.size - 1) :
    let m := ofText text
    (∀ line column offset, m.offset? line column = some offset →
      m.position offset = ⟨offset, line, column⟩ ∧ line < UInt32.size ∧ column < UInt32.size) ∧
    (∀ offset, offset ≤ m.charCount → ∃ line column piece,
      m.position offset = ⟨offset, line + 1, column + 1⟩ ∧
      line + 1 < UInt32.size ∧ column + 1 < UInt32.size ∧
      (pieces text.toList)[line]? = some piece ∧
      m.offset? (line + 1) (column + 1) =
        if column ≤ (dropReturns piece).length then some offset else none) ∧
    ∀ offset, (∃ line column, m.offset? line column = some offset) ↔
      offset ≤ m.charCount ∧ ¬ BehindReturn text.toList offset := by
  refine ⟨?_, ?_, fun offset => exists_offset?_iff⟩
  · intro line column offset h
    obtain ⟨-, hposition⟩ := position_of_offset? h
    have hfit := fits_position hfew offset
    rw [hposition] at hfit
    exact ⟨hposition, hfit⟩
  · intro offset hle
    obtain ⟨i, k, l, hl, hk, rfl, hposition⟩ := exists_place hle
    have hfit := fits_position hfew (l.start + k)
    rw [hposition] at hfit
    exact ⟨i, k, l.chars, hposition, hfit.1, hfit.2, pieces_of_getElem? hl,
      offset?_of_getElem? hl k⟩

/-- Two carriage returns before a newline: the offset between the line and them is reached, the
one between them and the one in front of the newline are not. -/
theorem offset?_inverts_returns :
    "a\r\r\nb\r".toList.length < UInt32.size - 1 ∧
    (ofText "a\r\r\nb\r").position 1 = ⟨1, 1, 2⟩ ∧
    (∃ line column, (ofText "a\r\r\nb\r").offset? line column = some 1) ∧
    (¬ ∃ line column, (ofText "a\r\r\nb\r").offset? line column = some 2) ∧
    (¬ ∃ line column, (ofText "a\r\r\nb\r").offset? line column = some 3) ∧
    ∃ line column, (ofText "a\r\r\nb\r").offset? line column = some 4 := by
  have hfew : "a\r\r\nb\r".toList.length < UInt32.size - 1 := by decide
  obtain ⟨hback, -, hreached⟩ := offset?_inverts "a\r\r\nb\r" hfew
  have hsecond : BehindReturn "a\r\r\nb\r".toList 2 := by decide
  have hthird : BehindReturn "a\r\r\nb\r".toList 3 := by decide
  refine ⟨hfew, (hback 1 2 1 rfl).1, (hreached 1).2 ?_, ?_, ?_, (hreached 4).2 ?_⟩
  · decide
  · intro h
    exact ((hreached 2).1 h).2 hsecond
  · intro h
    exact ((hreached 3).1 h).2 hthird
  · decide

end SourceMap

end Glossary
