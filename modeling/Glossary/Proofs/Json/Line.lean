import Glossary.Proofs.Json.Reading

/-!
# Compact values on one line

The compact layout puts no blank and no line end between the items of a value, and strings escape
every control character they hold. So the text of a compact value has no control character, and
stands on one line whatever its strings are.

## Main results

* `Writer.noControl_wrap` — brackets and commas bring none in.
* `Writer.noControl_render` — a compact value has no control character.
-/

namespace Glossary.Json.Writer

/-- What compact items are made of, from one on. -/
theorem mem_item_tail {closing c : Char} {item : List Char} {items : List (List Char)}
    (h : c ∈ item ++ Layout.compact.tail closing items) :
    c = closing ∨ c = ',' ∨ ∃ other ∈ item :: items, c ∈ other := by
  induction items generalizing item with
  | nil =>
      rcases List.mem_append.1 h with h | h
      · exact .inr (.inr ⟨item, by simp, h⟩)
      · exact .inl (List.mem_singleton.1 h)
  | cons next items ih =>
      rcases List.mem_append.1 h with h | h
      · exact .inr (.inr ⟨item, by simp, h⟩)
      · rcases List.mem_cons.1 h with rfl | h
        · exact .inr (.inl rfl)
        · obtain hclosing | hcomma | ⟨other, hother, hc⟩ := ih h
          · exact .inl hclosing
          · exact .inr (.inl hcomma)
          · exact .inr (.inr ⟨other, List.mem_cons_of_mem _ hother, hc⟩)

/-- A compact array or object has no control character that its items and brackets have not. -/
theorem noControl_wrap {opening closing : Char} (hopening : 0x20 ≤ opening.toNat)
    (hclosing : 0x20 ≤ closing.toNat) {items : List (List Char)}
    (h : ∀ item ∈ items, ∀ c ∈ item, 0x20 ≤ c.toNat) {c : Char}
    (hc : c ∈ Layout.compact.wrap opening closing items) : 0x20 ≤ c.toNat := by
  cases items with
  | nil =>
      rcases List.mem_cons.1 hc with rfl | hc
      · exact hopening
      · rw [List.mem_singleton.1 hc]
        exact hclosing
  | cons item items =>
      rw [Layout.wrap_cons] at hc
      rcases List.mem_cons.1 hc with rfl | hc
      · exact hopening
      · obtain rfl | rfl | ⟨other, hother, hc⟩ := mem_item_tail hc
        · exact hclosing
        · decide
        · exact h other hother c hc

theorem noControl_of_all {s : List Char} (h : s.all (fun c => 0x20 ≤ c.toNat) = true) :
    ∀ c ∈ s, 0x20 ≤ c.toNat := by
  simpa using h

/-- A digit is no control character. -/
theorem noControl_of_isDigit {c : Char} (h : c.isDigit = true) : 0x20 ≤ c.toNat := by
  rw [Char.isDigit, Bool.and_eq_true, decide_eq_true_eq, decide_eq_true_eq] at h
  exact Nat.le_trans (by decide) (UInt32.le_iff_toNat_le.1 h.1)

/-- A compact value has no control character: strings escape theirs, and nothing else has any. -/
theorem noControl_render {v : Value} (h : v.Plain) :
    ∀ c ∈ render .compact v, 0x20 ≤ c.toNat := by
  induction h with
  | null =>
      rw [render]
      exact noControl_of_all rfl
  | bool b =>
      cases b <;>
        · rw [render]
          exact noControl_of_all rfl
  | number n =>
      intro c hc
      rw [render_count] at hc
      exact noControl_of_isDigit (Reader.isDigit_of_mem_toDigits hc)
  | string s =>
      intro c hc
      rw [render] at hc
      exact noControl_encode hc
  | array _ ih =>
      intro c hc
      rw [render_array] at hc
      refine noControl_wrap (by decide) (by decide) ?_ hc
      intro item hitem
      obtain ⟨v, hv, rfl⟩ := List.mem_map.1 hitem
      exact ih v hv
  | object _ ih =>
      intro c hc
      rw [render_object] at hc
      refine noControl_wrap (by decide) (by decide) ?_ hc
      intro item hitem d hd
      obtain ⟨m, hm, rfl⟩ := List.mem_map.1 hitem
      rw [renderMember, List.append_assoc] at hd
      rcases List.mem_append.1 hd with hkey | hd
      · exact noControl_encode hkey
      · rcases List.mem_cons.1 hd with rfl | hvalue
        · decide
        · exact ih m hm d hvalue

end Glossary.Json.Writer
