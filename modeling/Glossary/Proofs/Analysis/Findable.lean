import Glossary.Proofs.Analysis.Known
import Glossary.Proofs.Token.Lone

/-!
# Entries that no text can show

A dictionary takes any token without blanks, but a scan finds only single
characters and words. An entry for an operator of several characters, or for a
word with a character that is not of ASCII, can therefore be looked up and is
never shown: no match of any analysis has its token, and no cursor rests on it.
The other entries are shown by the text that is their token and nothing else.

## Main results

* `Store.single_or_word_of_analyze`, `Store.single_or_word_of_hover?` — what can be
  shown of a text.
* `Store.analyze_of_lexeme` — the analysis of a text that is one token.
* `Store.Made.findable_iff` — which entries a text can show.
-/

namespace Glossary

namespace Store

variable {s : Store}

/-! ## Matches are tokens of a scan -/

/-- The text of a match is a single character or a word. -/
theorem single_or_word_of_analyze {text : String} {a : Analysis} (h : s.analyze text = .ok a)
    {m : Match} (hm : m ∈ a.found.toList) :
    m.text.toList.length = 1 ∨ Rule.word.MatchesAll m.text.toList := by
  rw [found_of_analyze h] at hm
  obtain ⟨t, ht, rfl⟩ := List.mem_map.1 hm
  obtain ⟨after, hlexeme⟩ := Cursor.exists_lexeme_of_mem_tokens ht
  exact hlexeme.single_or_word

/-- So is the text of what is found under a cursor. -/
theorem single_or_word_of_hover? {text : String} {offset : Nat} {m : Match}
    (h : s.hover? text offset = .ok (some m)) :
    m.text.toList.length = 1 ∨ Rule.word.MatchesAll m.text.toList := by
  obtain ⟨t, ht, rfl⟩ := exists_mem_tokens_of_hover? h
  obtain ⟨after, hlexeme⟩ := Cursor.exists_lexeme_of_mem_tokens ht
  exact hlexeme.single_or_word

/-! ## Texts that are one token -/

/-- A text that is one token is analyzed to one match, which covers all of it. -/
theorem analyze_of_lexeme {text : String} (hsize : text.utf8ByteSize ≤ Limits.maxInputSize)
    (hlexeme : Token.Lexeme text.toList []) {e : Entry} (he : s.find? text = some e) :
    s.analyze text = .ok ⟨#[⟨text, e.category, e.description, e.example?, 0,
      text.toList.length⟩]⟩ := by
  have htokens := Cursor.tokens_of_lexeme hlexeme
  have htokenize : Token.tokenize text =
      .ok #[⟨text, 0, text.toList.length, 0, byteLength text.toList⟩] := by
    refine Token.tokenize_eq_ok_iff.2 ⟨hsize, ?_, htokens.symm⟩
    rw [htokens]
    show 1 ≤ Limits.maxTokenCount
    decide
  rw [analyze, htokenize]
  simp [Except.map, Except.mapError, Match.ofToken, classify_of_find? he]

/-- A cursor at its start rests on that match. -/
theorem hover?_of_lexeme {text : String} (hsize : text.utf8ByteSize ≤ Limits.maxInputSize)
    (hlexeme : Token.Lexeme text.toList []) {e : Entry} (he : s.find? text = some e) :
    s.hover? text 0 = .ok (some ⟨text, e.category, e.description, e.example?, 0,
      text.toList.length⟩) := by
  have hpos := hlexeme.length_pos
  have hcovers : (⟨text, 0, text.toList.length, 0, byteLength text.toList⟩ : Token).covers 0
      = true := Token.covers_iff.2 ⟨Nat.le_refl 0, hpos⟩
  rw [hover?_eq_ok hsize, Cursor.tokens_of_lexeme hlexeme]
  simp [hcovers, Match.ofToken, classify_of_find? he]

/-! ## Entries -/

/-- Some text shows an entry, by its analysis or under a cursor, exactly when the
token of the entry is a single character or a word; and then the token by itself is
such a text, which has one match with all that the entry says. Any other entry is
only ever looked up. -/
theorem Made.findable_iff (h : s.Made) {token : String} {e : Entry}
    (he : s.find? token = some e) (hsize : e.token.utf8ByteSize ≤ Limits.maxInputSize) :
    ((∃ text a, s.analyze text = .ok a ∧ ∃ m ∈ a.found.toList, m.text = e.token) ↔
      e.token.toList.length = 1 ∨ Rule.word.MatchesAll e.token.toList) ∧
    ((∃ text offset m, s.hover? text offset = .ok (some m) ∧ m.text = e.token) ↔
      e.token.toList.length = 1 ∨ Rule.word.MatchesAll e.token.toList) ∧
    (e.token.toList.length = 1 ∨ Rule.word.MatchesAll e.token.toList →
      s.analyze e.token = .ok ⟨#[⟨e.token, e.category, e.description, e.example?, 0,
        e.token.toList.length⟩]⟩) := by
  obtain ⟨htoken, hsound⟩ := h.sound_of_find? he
  rw [← htoken] at he
  have hlexeme : e.token.toList.length = 1 ∨ Rule.word.MatchesAll e.token.toList →
      Token.Lexeme e.token.toList [] := Token.lexeme_of_single_or_word hsound.token_solid
  refine ⟨⟨?_, ?_⟩, ⟨?_, ?_⟩, ?_⟩
  · intro hshown
    obtain ⟨text, a, ha, m, hm, hmtext⟩ := hshown
    rw [← hmtext]
    exact single_or_word_of_analyze ha hm
  · intro hshape
    exact ⟨e.token, _, analyze_of_lexeme hsize (hlexeme hshape) he, _,
      List.mem_singleton_self _, rfl⟩
  · intro hshown
    obtain ⟨text, offset, m, hm, hmtext⟩ := hshown
    rw [← hmtext]
    exact single_or_word_of_hover? hm
  · intro hshape
    exact ⟨e.token, 0, _, hover?_of_lexeme hsize (hlexeme hshape) he, rfl⟩
  · intro hshape
    exact analyze_of_lexeme hsize (hlexeme hshape) he

/-- Of two entries that are both looked up, one is never shown. -/
theorem Made.findable_iff_operator :
    ∃ s : Store, s.Made ∧ s.find? "==" = some ⟨"==", .operator, "Equal", none⟩ ∧
      (¬∃ text a, s.analyze text = .ok a ∧ ∃ m ∈ a.found.toList, m.text = "==") ∧
      (¬∃ text offset m, s.hover? text offset = .ok (some m) ∧ m.text = "==") ∧
      s.analyze "_9" = .ok ⟨#[⟨"_9", .keyword, "Nine", some "_9", 0, 2⟩]⟩ := by
  obtain ⟨s, hs⟩ : ∃ s, Store.load [⟨"==", .operator, "Equal", none⟩,
      ⟨"_9", .keyword, "Nine", some "_9"⟩] = .ok s := ⟨_, rfl⟩
  have hoperator : s.find? "==" = some ⟨"==", .operator, "Equal", none⟩ := by
    rw [find?_load hs]
    rfl
  have hword : s.find? "_9" = some ⟨"_9", .keyword, "Nine", some "_9"⟩ := by
    rw [find?_load hs]
    rfl
  obtain ⟨hanalyze, hhover, -⟩ := Made.findable_iff (.load hs) hoperator (by decide)
  obtain ⟨-, -, hone⟩ := Made.findable_iff (.load hs) hword (by decide)
  have hshape : ¬("==".toList.length = 1 ∨ Rule.word.MatchesAll "==".toList) := by decide
  exact ⟨s, .load hs, hoperator, fun hshown => hshape (hanalyze.1 hshown),
    fun hshown => hshape (hhover.1 hshown), hone (by decide)⟩

end Store

end Glossary
