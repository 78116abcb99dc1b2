import Glossary.Proofs.Analysis.Lookup
import Glossary.Proofs.Dictionary.Soundness

/-!
# Known tokens

A token that a store does not contain is an identifier. The converse is not in how
tokens are explained: it holds because no way to make a store lets an entry in
whose category is that of identifiers. So the category alone tells whether the
store knows a token: in an analysis, under a cursor, and for a token by itself.

## Main results

* `Store.Made.category_classify_iff` — identifiers are what the store does not contain.
* `Store.exists_ofToken_of_hover?` — what is found under a cursor is explained like a match.
* `Store.Made.analyze_known` — every match of an analysis, and what is known of it.
-/

namespace Glossary

namespace Store

variable {s : Store}

/-! ## One token -/

theorem contains_eq_isSome (s : Store) (token : String) :
    s.contains token = (s.find? token).isSome := by
  rw [contains, find?]
  exact Std.HashMap.contains_eq_isSome_getElem?

theorem contains_eq_false_iff {token : String} :
    s.contains token = false ↔ s.find? token = none := by
  rw [contains_eq_isSome, Option.isSome_eq_false_iff, Option.isNone_iff_eq_none]

theorem classify_of_find? {token : String} {e : Entry} (h : s.find? token = some e) :
    s.classify token = ⟨e.category, e.description, e.example?⟩ := by
  rw [classify, h]

theorem classify_of_contains_eq_false {token : String} (h : s.contains token = false) :
    s.classify token = ⟨.identifier, unknownDescription, none⟩ := by
  rw [classify, contains_eq_false_iff.1 h]

/-- Only what the store does not contain is an identifier: an entry that was let in
has another category. -/
theorem Made.category_classify_iff (h : s.Made) (token : String) :
    (s.classify token).category = .identifier ↔ s.contains token = false := by
  constructor
  · intro hcategory
    cases hfind : s.find? token with
    | none => exact contains_eq_false_iff.2 hfind
    | some e =>
        rw [classify_of_find? hfind] at hcategory
        exact absurd hcategory (h.sound_of_find? hfind).2.category_ne
  · intro hnot
    rw [classify_of_contains_eq_false hnot]

theorem Made.isKnown_classify (h : s.Made) (token : String) :
    (s.classify token).isKnown = s.contains token := by
  rw [Classification.isKnown, Bool.eq_iff_iff, bne_iff_ne, Ne, h.category_classify_iff,
    Bool.not_eq_false]

/-! ## Matches -/

/-- A match says of its text what the store says of it. -/
theorem classify_text_ofToken (s : Store) (t : Token) :
    s.classify (Match.ofToken s t).text =
      ⟨(Match.ofToken s t).category, (Match.ofToken s t).description,
        (Match.ofToken s t).example?⟩ := rfl

theorem Made.isKnown_ofToken (h : s.Made) (t : Token) :
    (Match.ofToken s t).isKnown = s.contains (Match.ofToken s t).text :=
  h.isKnown_classify t.text

/-- What is found under a cursor is a token of the text, explained like a match. -/
theorem exists_mem_tokens_of_hover? {text : String} {offset : Nat} {m : Match}
    (h : s.hover? text offset = .ok (some m)) :
    ∃ t ∈ (Cursor.ofText text).tokens, m = Match.ofToken s t := by
  by_cases hsize : text.utf8ByteSize ≤ Limits.maxInputSize
  · rw [hover?_eq_ok hsize, Except.ok.injEq, Option.map_eq_some_iff] at h
    obtain ⟨t, ht, rfl⟩ := h
    exact ⟨t, List.mem_of_find?_eq_some ht, rfl⟩
  · have hcursor : Token.cursor text = .error (.inputTooLarge text.utf8ByteSize) :=
      if_pos (by omega)
    simp [hover?, Token.at?, hcursor, Except.map, Except.mapError] at h

theorem exists_ofToken_of_hover? {text : String} {offset : Nat} {m : Match}
    (h : s.hover? text offset = .ok (some m)) : ∃ t, m = Match.ofToken s t := by
  obtain ⟨t, -, hm⟩ := exists_mem_tokens_of_hover? h
  exact ⟨t, hm⟩

/-- The matches of an analysis are the tokens of the text, one for one. A match is an
identifier exactly when the store does not contain its text, and then nothing more
is said of it; otherwise it says what the entry says. So whether a token is known,
by itself or under a cursor, is whether the store contains it. -/
theorem Made.analyze_known (h : s.Made) :
    (∀ text a, s.analyze text = .ok a →
      (a.found.toList.map fun m => (m.text, m.start, m.stop)) =
        ((Cursor.ofText text).tokens.map fun t => (t.text, t.start, t.stop)) ∧
      ∀ m ∈ a.found.toList,
        (m.category = .identifier ↔ s.contains m.text = false) ∧
        (s.contains m.text = false → m.description = "Unknown token" ∧ m.example? = none) ∧
        (s.contains m.text = true → ∃ e, s.find? m.text = some e ∧ m.category = e.category ∧
          m.description = e.description ∧ m.example? = e.example?)) ∧
    (∀ token, (s.classify token).isKnown = s.contains token) ∧
    ∀ text offset m, s.hover? text offset = .ok (some m) → m.isKnown = s.contains m.text := by
  refine ⟨?_, h.isKnown_classify, ?_⟩
  · intro text a ha
    rw [found_of_analyze ha]
    refine ⟨by rw [List.map_map]; rfl, ?_⟩
    intro m hm
    obtain ⟨t, -, rfl⟩ := List.mem_map.1 hm
    have hmeaning := classify_text_ofToken s t
    refine ⟨h.category_classify_iff _, ?_, ?_⟩
    · intro hnot
      rw [classify_of_contains_eq_false hnot, Classification.mk.injEq] at hmeaning
      exact ⟨hmeaning.2.1.symm, hmeaning.2.2.symm⟩
    · intro hcontains
      rw [contains_eq_isSome, Option.isSome_iff_exists] at hcontains
      obtain ⟨e, he⟩ := hcontains
      rw [classify_of_find? he, Classification.mk.injEq] at hmeaning
      exact ⟨e, he, hmeaning.1.symm, hmeaning.2.1.symm, hmeaning.2.2.symm⟩
  · intro text offset m hm
    obtain ⟨t, rfl⟩ := exists_ofToken_of_hover? hm
    exact h.isKnown_ofToken t

/-- Tokens are known by their exact text. -/
theorem Made.analyze_known_if :
    ∃ s a m, Store.load [⟨"if", .keyword, "Branch", none⟩] = .ok s ∧
      s.analyze "if IF" = .ok a ∧
      (a.found.toList.map fun m => (m.text, m.start, m.stop)) = [("if", 0, 2), ("IF", 3, 5)] ∧
      (∀ m ∈ a.found.toList, (m.category = .identifier ↔ s.contains m.text = false)) ∧
      s.contains "if" = true ∧ s.contains "IF" = false ∧
      s.hover? "if IF" 4 = .ok (some m) ∧ m.isKnown = s.contains m.text := by
  obtain ⟨s, hs⟩ : ∃ s, Store.load [⟨"if", .keyword, "Branch", none⟩] = .ok s := ⟨_, rfl⟩
  have hcontains : s.contains "if" = true := by
    rw [contains_eq_isSome, find?_load hs]
    rfl
  have hnot : s.contains "IF" = false := by
    rw [contains_eq_isSome, find?_load hs]
    rfl
  have htokenize : Token.tokenize "if IF" = .ok #[⟨"if", 0, 2, 0, 2⟩, ⟨"IF", 3, 5, 3, 5⟩] := by
    decide +kernel
  obtain ⟨hsize, -, htokens⟩ := Token.tokenize_eq_ok_iff.1 htokenize
  have hanalyze : ∃ a, s.analyze "if IF" = .ok a := by
    rw [analyze, htokenize]
    exact ⟨_, rfl⟩
  obtain ⟨a, ha⟩ := hanalyze
  have hhover : ∃ m, s.hover? "if IF" 4 = .ok (some m) := by
    rw [hover?_eq_ok hsize, ← htokens]
    exact ⟨_, rfl⟩
  obtain ⟨m, hm⟩ := hhover
  obtain ⟨hmatches, -, hcursor⟩ := Made.analyze_known (.load hs)
  obtain ⟨hspans, hknown⟩ := hmatches _ a ha
  refine ⟨s, a, m, hs, ha, ?_, fun m hm => (hknown m hm).1, hcontains, hnot, hm, hcursor _ _ m hm⟩
  rw [hspans, ← htokens]
  rfl

end Store

end Glossary
