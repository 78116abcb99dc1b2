import Glossary.Analysis
import Glossary.Proofs.Token.Seam

/-!
# Tokens laid out anew

A text says the same however its tokens are laid out: with other blanks between
them, in front of them and behind them, as long as there are blanks between any
two. Each token is found again, because a lexeme in one place is a lexeme in
front of anything that carries no word on, and neither a blank nor the end of
the text does. Blanks are never taken for part of a token.

The induction is on the rows of a layout, with the blanks that come first as
what varies: what follows a token begins with the blanks of its row.

## Main results

* `Layout.Spaced.map_text_tokens` — the tokens of what is laid out.
* `Store.map_told_analyze` — what an analysis tells depends on the texts of the tokens.
* `Layout.scanAll_text` — laying out the tokens of a text anew changes nothing.
-/

namespace Glossary

open Text Token

/-! ## Lexemes in other places -/

namespace Token

theorem isWordPart_eq_false_of_isBlank {c : Char} (h : isBlank c = true) :
    isWordPart c = false := by
  by_contra hpart
  rw [Bool.not_eq_false] at hpart
  rw [isBlank_of_isWordPart hpart] at h
  cases h

theorem closes_of_blank {s : List Char} (h : ∀ c ∈ s, isBlank c = true) : Closes s :=
  fun x hx => isWordPart_eq_false_of_isBlank (h x (List.mem_of_mem_head? hx))

/-- A lexeme is one in front of anything that does not carry a word on. -/
theorem Lexeme.of_closes {run after other : List Char} (h : Lexeme run after)
    (hother : Closes other) : Lexeme run other := by
  cases h with
  | lone solid start => exact .lone solid start
  | word start parts stops => exact .word start parts hother

end Token

/-! ## Layouts -/

namespace Layout

/-- Each text with the blanks behind it, after the blanks in front of all: there are blanks and
nothing else around the texts, and some between any two. -/
def Spaced : List Char → List (String × List Char) → Prop
  | gap, [] => ∀ c ∈ gap, isBlank c = true
  | gap, (_, next) :: rows =>
      (∀ c ∈ gap, isBlank c = true) ∧ (rows ≠ [] → next ≠ []) ∧ Spaced next rows

/-- All that is laid out. -/
def write : List Char → List (String × List Char) → List Char
  | gap, [] => gap
  | gap, (text, next) :: rows => gap ++ (text.toList ++ write next rows)

theorem Spaced.blank {gap : List Char} {rows : List (String × List Char)}
    (h : Spaced gap rows) : ∀ c ∈ gap, isBlank c = true := by
  cases rows with
  | nil => exact h
  | cons r rows => exact h.1

/-- What stands behind a text carries no word on: it begins with a blank or is the end. -/
theorem Spaced.closes_write {gap : List Char} {rows : List (String × List Char)}
    (h : Spaced gap rows) (hgap : rows ≠ [] → gap ≠ []) : Closes (write gap rows) := by
  cases rows with
  | nil => exact closes_of_blank h
  | cons r rows =>
      obtain ⟨x, xs, rfl⟩ := List.exists_cons_of_ne_nil (hgap (List.cons_ne_nil _ _))
      intro y hy
      obtain rfl : x = y := Option.some.inj hy
      exact isWordPart_eq_false_of_isBlank (h.blank x List.mem_cons_self)

/-- What is laid out is scanned into the texts, if each of them is a lexeme somewhere. -/
theorem Spaced.map_text_tokens {gap : List Char} {rows : List (String × List Char)}
    (h : Spaced gap rows) (hlexeme : ∀ r ∈ rows, ∃ after, Lexeme r.1.toList after)
    (chars bytes : Nat) :
    (Cursor.tokens ⟨write gap rows, chars, bytes⟩).map (·.text) = rows.map (·.1) := by
  induction rows generalizing gap chars bytes with
  | nil =>
      have hnone : (Cursor.tokens ⟨write gap [], chars, bytes⟩) = [] := Cursor.tokens_of_blank h
      rw [hnone, List.map_nil, List.map_nil]
  | cons r rows ih =>
      obtain ⟨text, next⟩ := r
      obtain ⟨hblank, hnext, hrest⟩ := h
      obtain ⟨after, hsomewhere⟩ := hlexeme _ List.mem_cons_self
      have hcut : Token.Cut (write gap ((text, next) :: rows)) gap text.toList
          (write next rows) :=
        ⟨rfl, hblank, hsomewhere.of_closes (hrest.closes_write hnext)⟩
      have hstep := Cursor.step_pass (c := ⟨write gap ((text, next) :: rows), chars, bytes⟩) hcut
      have htext : String.ofList text.toList = text := String.ofList_toList
      rw [hstep.tokens_eq, List.map_cons, List.map_cons, Cursor.pass, htext,
        ih hrest fun r hr => hlexeme r (List.mem_cons_of_mem _ hr)]

end Layout

/-- Texts in a row with blanks around them. -/
structure Layout where
  /-- The blanks in front of all texts. -/
  lead : List Char
  /-- Each text with the blanks behind it. -/
  rows : List (String × List Char)
  spaced : Layout.Spaced lead rows

namespace Layout

/-- All that is laid out. -/
def text (l : Layout) : String := String.ofList (write l.lead l.rows)

/-- The texts without the blanks. -/
def texts (l : Layout) : List String := l.rows.map (·.1)

/-- The tokens of a text are found again in any layout of them. -/
theorem map_text_tokens {text : String} {l : Layout}
    (h : l.texts = (Cursor.ofText text).tokens.map (·.text)) :
    (Cursor.ofText l.text).tokens.map (·.text) = (Cursor.ofText text).tokens.map (·.text) := by
  have hlexeme : ∀ r ∈ l.rows, ∃ after, Lexeme r.1.toList after := by
    intro r hr
    have hmem : r.1 ∈ (Cursor.ofText text).tokens.map (·.text) :=
      h ▸ List.mem_map_of_mem hr
    obtain ⟨t, ht, htext⟩ := List.mem_map.1 hmem
    rw [← htext]
    exact Cursor.exists_lexeme_of_mem_tokens ht
  rw [← h, Cursor.ofText, Layout.text, String.toList_ofList]
  exact l.spaced.map_text_tokens hlexeme 0 0

end Layout

/-! ## What a store tells of tokens -/

namespace Analysis

/-- What an analysis tells, without the places: each text, and what is known of it. -/
def told (a : Analysis) : List (String × Classification) :=
  a.found.toList.map fun m => (m.text, ⟨m.category, m.description, m.example?⟩)

end Analysis

/-- What is told of a text depends on the texts of its tokens and on how many they are. -/
theorem Store.map_told_analyze (s : Store) {text : String} {ts : List Token}
    (h : scanAll text = .ok ts) :
    (s.analyze text).map Analysis.told =
      if Limits.maxTokenCount < (ts.map (·.text)).length then
        .error (.scan (.tooManyTokens (Limits.maxTokenCount + 1)))
      else .ok ((ts.map (·.text)).map fun token => (token, s.classify token)) := by
  rw [analyze, tokenize_eq_scanAll, h, List.length_map]
  by_cases hmany : Limits.maxTokenCount < ts.length
  · simp [Except.bind, Except.map, Except.mapError, hmany]
  · simp [Except.bind, Except.map, Except.mapError, hmany, Analysis.told, Match.ofToken]

/-- However the tokens of a text are laid out with blanks between them, the same texts are
found, in the same order, and every store knows the same of them and tells the same. -/
theorem Layout.scanAll_text {text : String} {ts : List Token} (h : scanAll text = .ok ts)
    (l : Layout) (htexts : l.texts = ts.map (·.text))
    (hsize : l.text.utf8ByteSize ≤ Limits.maxInputSize) :
    ∃ us, scanAll l.text = .ok us ∧ us.map (·.text) = ts.map (·.text) ∧ ∀ s : Store,
      us.map (fun t => s.classify t.text) = ts.map (fun t => s.classify t.text) ∧
      (s.analyze l.text).map Analysis.told = (s.analyze text).map Analysis.told := by
  have hlayout := scanAll_eq_ok hsize
  obtain ⟨-, rfl⟩ := scanAll_eq_ok_iff.1 h
  have hsame := map_text_tokens htexts
  refine ⟨_, hlayout, hsame, fun s => ⟨?_, ?_⟩⟩
  · have hclassify := congrArg (List.map s.classify) hsame
    rwa [List.map_map, List.map_map] at hclassify
  · rw [s.map_told_analyze hlayout, s.map_told_analyze h, hsame]

/-- Tokens that touch each other, spread with blanks of which most are not of ASCII. -/
theorem Layout.scanAll_text_spread :
    ∃ (ts : List Token) (l : Layout), scanAll "9x9é+y" = .ok ts ∧
      l.texts = ts.map (·.text) ∧ l.text = "\u30009\u00A0x9\n\té +\u2003y " ∧
      l.text.utf8ByteSize ≤ Limits.maxInputSize ∧
      ∃ us, scanAll l.text = .ok us ∧ us.map (·.text) = ["9", "x9", "é", "+", "y"] := by
  have hfound : tokenize "9x9é+y" = .ok #[⟨"9", 0, 1, 0, 1⟩, ⟨"x9", 1, 3, 1, 3⟩,
      ⟨"é", 3, 4, 3, 5⟩, ⟨"+", 4, 5, 5, 6⟩, ⟨"y", 5, 6, 6, 7⟩] := by decide +kernel
  obtain ⟨hle, -, htokens⟩ := tokenize_eq_ok_iff.1 hfound
  have hscan := scanAll_eq_ok hle
  rw [← htokens] at hscan
  let l : Layout := ⟨['\u3000'], [("9", ['\u00A0']), ("x9", ['\n', '\t']), ("é", [' ']),
    ("+", ['\u2003']), ("y", [' '])], by simp [Spaced, isBlank]⟩
  have htexts : l.text = "\u30009\u00A0x9\n\té +\u2003y " := by decide
  have hsize : l.text.utf8ByteSize ≤ Limits.maxInputSize := by
    rw [htexts]
    decide
  obtain ⟨us, hus, hsame, -⟩ := scanAll_text hscan l rfl hsize
  exact ⟨_, l, hscan, rfl, htexts, hsize, us, hus, hsame⟩

end Glossary
