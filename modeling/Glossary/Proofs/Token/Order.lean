import Glossary.Proofs.Token.Tokenization

/-!
# Where the tokens of a scan stand

The tokens of a scan come in the order of the text and never overlap, and they
cover exactly the characters that are not blank. Everything here is an induction
on the steps of the scan; what one step gives is in `Cursor.Step`.

## Main results

* `Cursor.tokens_pairwise` — a token ends before the next one begins.
* `Cursor.exists_covers_iff` — the characters that tokens cover.
* `Cursor.seek_eq_find?` — stopping at the first token behind an offset loses
  nothing.
-/

namespace Glossary

open Text

namespace Token

theorem covers_iff {t : Token} {offset : Nat} :
    t.covers offset = true ↔ t.start ≤ offset ∧ offset < t.stop := by
  simp [covers]

end Token

namespace Cursor

/-! ## What one step says about offsets -/

theorem Step.start_lt_stop {c d : Cursor} {gap : List Char} {t : Token}
    (h : c.Step gap t d) : t.start < t.stop := by
  have hpos := h.cut.lexeme.length_pos
  have hstop := h.stop_eq
  omega

theorem Step.chars_le_start {c d : Cursor} {gap : List Char} {t : Token}
    (h : c.Step gap t d) : c.chars ≤ t.start := by
  have hstart := h.start_eq
  omega

/-! ## Order -/

/-- A token of a scan begins where the scan stands or later, and is not empty. -/
theorem chars_le_start {c : Cursor} :
    ∀ t ∈ c.tokens, c.chars ≤ t.start ∧ t.start < t.stop := by
  induction c using Cursor.tokens.induct with
  | case1 c h =>
      rw [tokens_of_none h]
      intro t ht
      cases ht
  | case2 c t d h ih =>
      rw [tokens_of_some h]
      obtain ⟨gap, hstep⟩ := next?_eq_some_iff.1 h
      intro u hu
      rcases List.mem_cons.1 hu with rfl | hu
      · exact ⟨hstep.chars_le_start, hstep.start_lt_stop⟩
      · have hle := hstep.chars_le_start
        have hlt := hstep.start_lt_stop
        have hchars := hstep.chars_eq
        obtain ⟨hstart, hstop⟩ := ih u hu
        exact ⟨by omega, hstop⟩

/-- A token ends before the next one begins. -/
theorem tokens_pairwise (c : Cursor) :
    c.tokens.Pairwise fun t u => t.stop ≤ u.start := by
  induction c using Cursor.tokens.induct with
  | case1 c h =>
      rw [tokens_of_none h]
      exact .nil
  | case2 c t d h ih =>
      rw [tokens_of_some h]
      obtain ⟨gap, hstep⟩ := next?_eq_some_iff.1 h
      refine .cons ?_ ih
      intro u hu
      rw [← hstep.chars_eq]
      exact (chars_le_start u hu).1

/-! ## Cover -/

/-- The characters of the rest that a token covers are those that are not blank. -/
theorem exists_covers_iff (c : Cursor) (i : Nat) :
    (∃ t ∈ c.tokens, t.covers (c.chars + i) = true) ↔
      ∃ x, c.rest[i]? = some x ∧ isBlank x = false := by
  induction c using Cursor.tokens.induct generalizing i with
  | case1 c h =>
      rw [tokens_of_none h]
      have hblank := next?_eq_none_iff.1 h
      constructor
      · rintro ⟨t, ht, -⟩
        cases ht
      · rintro ⟨x, hx, hsolid⟩
        rw [hblank x (List.mem_of_getElem? hx)] at hsolid
        cases hsolid
  | case2 c t d h ih =>
      rw [tokens_of_some h]
      obtain ⟨gap, hstep⟩ := next?_eq_some_iff.1 h
      have hstart := hstep.start_eq
      have hstop := hstep.stop_eq
      have hchars := hstep.chars_eq
      rw [hstep.cut.eq]
      rcases Nat.lt_or_ge i gap.length with hgap | hgap
      · -- in the gap: blank, and before every token
        rw [List.getElem?_append_left hgap]
        constructor
        · rintro ⟨u, hu, hcov⟩
          rw [Token.covers_iff] at hcov
          rcases List.mem_cons.1 hu with rfl | hu
          · omega
          · have := chars_le_start u hu
            have := hstep.start_lt_stop
            omega
        · rintro ⟨x, hx, hsolid⟩
          rw [hstep.cut.blank x (List.mem_of_getElem? hx)] at hsolid
          cases hsolid
      · rw [List.getElem?_append_right hgap]
        rcases Nat.lt_or_ge (i - gap.length) t.text.toList.length with hrun | hrun
        · -- in the token just found
          rw [List.getElem?_append_left hrun]
          constructor
          · intro _
            exact ⟨_, List.getElem?_eq_getElem hrun,
              hstep.cut.lexeme.solid _ (List.getElem_mem hrun)⟩
          · intro _
            refine ⟨t, by simp, Token.covers_iff.2 ⟨by omega, by omega⟩⟩
        · -- behind it: the rest of the scan decides
          rw [List.getElem?_append_right hrun, ← ih]
          have hoffset : d.chars + (i - gap.length - t.text.toList.length) = c.chars + i := by
            omega
          rw [hoffset]
          constructor
          · rintro ⟨u, hu, hcov⟩
            rcases List.mem_cons.1 hu with rfl | hu
            · rw [Token.covers_iff] at hcov
              omega
            · exact ⟨u, hu, hcov⟩
          · rintro ⟨u, hu, hcov⟩
            exact ⟨u, by simp [hu], hcov⟩

/-- The characters of a text that tokens cover are those that are not blank. -/
theorem exists_covers_ofText_iff (text : String) (offset : Nat) :
    (∃ t ∈ (ofText text).tokens, t.covers offset = true) ↔
      ∃ x, text.toList[offset]? = some x ∧ isBlank x = false := by
  have hcover := exists_covers_iff (.ofText text) offset
  have hplace : (ofText text).chars + offset = offset := Nat.zero_add offset
  rwa [hplace] at hcover

/-! ## The search that stops early -/

/-- No token behind one that starts past an offset covers the offset. -/
theorem seek_eq_find? (c : Cursor) (offset : Nat) :
    c.seek offset = c.tokens.find? (·.covers offset) := by
  fun_induction Cursor.seek c offset with
  | case1 c h => rw [tokens_of_none h, List.find?_nil]
  | case2 c t d h hlt =>
      rw [tokens_of_some h, eq_comm, List.find?_eq_none]
      obtain ⟨gap, hstep⟩ := next?_eq_some_iff.1 h
      intro u hu
      rw [Token.covers_iff]
      rcases List.mem_cons.1 hu with rfl | hu
      · omega
      · have := chars_le_start u hu
        have := hstep.start_lt_stop
        have := hstep.chars_eq
        omega
  | case3 c t d h hlt hcov =>
      rw [tokens_of_some h]
      simp [hcov]
  | case4 c t d h hlt hcov ih =>
      rw [tokens_of_some h, ih]
      simp [hcov]

end Cursor

end Glossary
