import Glossary.Proofs.Token.Tokenization

/-!
# Texts that are one token

A token that a scan finds is a single character or a word, whatever text it is
found in: those are the two ways of the pattern. The converse holds for texts
without blanks. Such a text is one token by itself, because a single character
that starts a word is a word of one character, and a word goes on to the end of
the text.

## Main results

* `Rule.matchesAll_word_iff` — the texts that the pattern of words matches.
* `Token.Lexeme.single_or_word` — what a scan can find.
* `Cursor.tokens_of_lexeme` — what it finds in a text that is one token.
-/

namespace Glossary

open Text

/-! ## Matching a whole text -/

namespace Rule

/-- The pattern matches the text as a whole. -/
def MatchesAll (r : Rule) (s : List Char) : Prop := (s, []) ∈ r.ways s

instance (r : Rule) (s : List Char) : Decidable (r.MatchesAll s) :=
  inferInstanceAs (Decidable ((s, []) ∈ r.ways s))

/-- The pattern of words, `[A-Za-z_][A-Za-z0-9_]*`. -/
def word : Rule :=
  .seq (.one (within [('A', 'Z'), ('a', 'z'), ('_', '_')]))
    (.many (within [('A', 'Z'), ('a', 'z'), ('0', '9'), ('_', '_')]))

/-- A repetition matches a text as a whole when all its characters are of the class. -/
theorem mem_repetitions_iff {test : Char → Bool} {s : List Char} :
    (s, []) ∈ repetitions test s ↔ ∀ c ∈ s, test c = true := by
  induction s with
  | nil => simp [repetitions]
  | cons c cs ih =>
      by_cases hc : test c = true
      · have hpush : (c :: cs, []) ∈ (repetitions test cs).map (Way.push c) ↔
            (cs, []) ∈ repetitions test cs := by
          simp [Way.push]
        rw [repetitions, if_pos hc, List.mem_append, hpush, ih]
        simp [hc]
      · simp [repetitions, hc]

/-- The pattern of words matches a character that starts a word, with any number of
characters of words behind it. -/
theorem matchesAll_word_iff {s : List Char} :
    word.MatchesAll s ↔ ∃ c run, s = c :: run ∧ Token.isWordStart c = true ∧
      ∀ d ∈ run, Token.isWordPart d = true := by
  unfold MatchesAll word
  cases s with
  | nil => simp [ways]
  | cons c run =>
      simp only [ways, within_wordStart, within_wordPart]
      by_cases hc : Token.isWordStart c = true
      · have hpush : (c :: run, []) ∈ (repetitions Token.isWordPart run).map
            (fun w => ([c] ++ w.1, w.2)) ↔ (run, []) ∈ repetitions Token.isWordPart run := by
          simp
        rw [if_pos hc, List.flatMap_singleton, hpush, mem_repetitions_iff]
        constructor
        · intro hparts
          exact ⟨c, run, rfl, hc, hparts⟩
        · intro h
          obtain ⟨d, more, heq, -, hparts⟩ := h
          obtain ⟨-, rfl⟩ := List.cons.inj heq
          exact hparts
      · simp [hc]

end Rule

/-! ## Lexemes by themselves -/

namespace Token

/-- A lexeme is a single character or a word. -/
theorem Lexeme.single_or_word {run after : List Char} (h : Lexeme run after) :
    run.length = 1 ∨ Rule.word.MatchesAll run := by
  cases h with
  | lone solid other => exact .inl rfl
  | word start parts stops => exact .inr (Rule.matchesAll_word_iff.2 ⟨_, _, rfl, start, parts⟩)

/-- A character that is not blank, and a word, are lexemes where nothing follows. -/
theorem lexeme_of_single_or_word {s : List Char} (hsolid : ∀ c ∈ s, isBlank c = false)
    (h : s.length = 1 ∨ Rule.word.MatchesAll s) : Lexeme s [] := by
  rcases h with hsingle | hword
  · obtain ⟨c, rfl⟩ := List.length_eq_one_iff.1 hsingle
    by_cases hc : isWordStart c = true
    · exact .word hc (by simp) (by simp)
    · exact .lone (hsolid c (by simp)) (Bool.eq_false_iff.2 hc)
  · obtain ⟨c, run, rfl, hstart, hparts⟩ := Rule.matchesAll_word_iff.1 hword
    exact .word hstart hparts (by simp)

end Token

namespace Cursor

/-- What a scan finds is a lexeme in front of what follows it. -/
theorem exists_lexeme_of_mem_tokens {text : String} {t : Token}
    (ht : t ∈ (ofText text).tokens) : ∃ after, Token.Lexeme t.text.toList after := by
  have htokenizes : Token.Tokenizes text.toList 0 (ofText text).tokens :=
    (tokenizes_iff (at_ofText text) _).2 rfl
  exact ⟨_, htokenizes.lexeme t ht⟩

/-- A text that is a lexeme is scanned as one token. -/
theorem tokens_of_lexeme {text : String} (h : Token.Lexeme text.toList []) :
    (ofText text).tokens =
      [⟨text, 0, text.toList.length, 0, byteLength text.toList⟩] := by
  have hcut : Token.Cut (ofText text).rest [] text.toList [] :=
    ⟨by simp [ofText], by simp, h⟩
  have hnext : (ofText text).next? = some ((ofText text).pass [] text.toList []) :=
    next?_eq_some_iff.2 ⟨[], step_pass hcut⟩
  have hend : ((ofText text).pass [] text.toList []).2.next? = none := by
    rw [next?_eq_none_iff]
    simp [pass]
  have htokens : (ofText text).tokens = [((ofText text).pass [] text.toList []).1] :=
    tokens_eq_cons_iff.2 ⟨_, hnext, tokens_of_none hend⟩
  rw [htokens]
  simp [pass, ofText, byteLength]

end Cursor

end Glossary
