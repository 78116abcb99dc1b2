import Glossary.Token

/-!
# The pattern that tokens match

Tokens are the matches of the pattern `[A-Za-z_][A-Za-z0-9_]*|\S`, found one
after the other: each search begins where the last match ended, stops at the
first place where the pattern matches at all, and there takes the way that is
preferred. Of two alternatives the first is preferred, and of two repetitions
the longer one.

This module lists the ways of a pattern in their order of preference, so that
"the match" is the head of a list, and shows that `Cursor.next?` steps from one
match to the next (`Cursor.next?_eq_find?`). Nothing here knows about limits.

## Main results

* `Rule.find?_token` — the search skips blanks and then cuts off what
  `Token.split` cuts off.
* `Cursor.next?_eq_find?` — a cursor steps from match to match.
-/

namespace Glossary

open Text

/-! ## Characters of words -/

namespace Token

theorem isAlpha_iff {c : Char} :
    c.isAlpha = true ↔ ('A' ≤ c ∧ c ≤ 'Z') ∨ ('a' ≤ c ∧ c ≤ 'z') := by
  show (decide ('A' ≤ c ∧ c ≤ 'Z') || (decide ('a' ≤ c) && decide (c ≤ 'z'))) = true ↔ _
  rw [Bool.or_eq_true, Bool.and_eq_true]
  simp only [decide_eq_true_eq]

theorem isDigit_iff {c : Char} : c.isDigit = true ↔ '0' ≤ c ∧ c ≤ '9' := by
  show (decide ('0' ≤ c) && decide (c ≤ '9')) = true ↔ _
  rw [Bool.and_eq_true]
  simp only [decide_eq_true_eq]

theorem isWordPart_of_isWordStart {c : Char} (h : isWordStart c = true) :
    isWordPart c = true := by
  simp only [isWordStart, isWordPart, Char.isAlphanum, Bool.or_eq_true] at h ⊢
  exact h.imp_left .inl

/-- A word has no blanks in it. -/
theorem isBlank_of_isWordPart {c : Char} (h : isWordPart c = true) : isBlank c = false := by
  have hc : c.toNat = c.val.toNat := rfl
  simp only [isWordPart, Char.isAlphanum, Bool.or_eq_true, isAlpha_iff, isDigit_iff,
    beq_iff_eq, Char.le_def, UInt32.le_iff_toNat_le] at h
  rcases h with (((h | h) | h) | rfl)
  · simp [isBlank] at h ⊢
    omega
  · simp [isBlank] at h ⊢
    omega
  · simp [isBlank] at h ⊢
    omega
  · decide

theorem isBlank_of_isWordStart {c : Char} (h : isWordStart c = true) : isBlank c = false :=
  isBlank_of_isWordPart (isWordPart_of_isWordStart h)

end Token

/-! ## Patterns and their ways -/

/-- Patterns as far as tokens need them. -/
inductive Rule where
  /-- One character of a class. -/
  | one (test : Char → Bool)
  /-- Any number of characters of a class, preferably many. -/
  | many (test : Char → Bool)
  | seq (a b : Rule)
  /-- One of two patterns, preferably the first. -/
  | either (a b : Rule)

/-- What is matched at the start of a text, and what is left of it. -/
abbrev Way := List Char × List Char

/-- A way that matches one character more. -/
def Way.push (c : Char) (w : Way) : Way := (c :: w.1, w.2)

namespace Rule

/-- The ways of a repetition, the longest first. -/
def repetitions (test : Char → Bool) : List Char → List Way
  | [] => [([], [])]
  | c :: cs =>
      if test c then (repetitions test cs).map (Way.push c) ++ [([], c :: cs)]
      else [([], c :: cs)]

/-- The ways to match at the start of a text, the preferred one first. -/
def ways : Rule → List Char → List Way
  | .one _, [] => []
  | .one test, c :: cs => if test c then [([c], cs)] else []
  | .many test, s => repetitions test s
  | .seq a b, s =>
      (a.ways s).flatMap fun v => (b.ways v.2).map fun w => (v.1 ++ w.1, w.2)
  | .either a b, s => a.ways s ++ b.ways s

/-- The first match in a text, with the characters skipped before it. -/
def find? (r : Rule) : List Char → Option (List Char × Way)
  | [] => (r.ways []).head?.map fun w => ([], w)
  | c :: cs =>
      match (r.ways (c :: cs)).head? with
      | some w => some ([], w)
      | none => (r.find? cs).map fun m => (c :: m.1, m.2)

/-- The characters of some ranges, both ends included. -/
def within (ranges : List (Char × Char)) (c : Char) : Bool :=
  ranges.any fun r => r.1 ≤ c && c ≤ r.2

/-- The pattern `[A-Za-z_][A-Za-z0-9_]*|\S`. -/
def token : Rule :=
  .either
    (.seq (.one (within [('A', 'Z'), ('a', 'z'), ('_', '_')]))
      (.many (within [('A', 'Z'), ('a', 'z'), ('0', '9'), ('_', '_')])))
    (.one fun c => !isBlank c)

/-! ## The classes of the pattern -/

private theorem val_eq_underscore_iff (c : Char) :
    95 ≤ c.val ∧ c.val ≤ 95 ↔ c = '_' := by
  constructor
  · intro h
    exact Char.ext (UInt32.le_antisymm h.2 h.1)
  · rintro rfl
    decide

theorem within_wordStart :
    within [('A', 'Z'), ('a', 'z'), ('_', '_')] = Token.isWordStart := by
  funext c
  rw [Bool.eq_iff_iff]
  simp [within, Token.isWordStart, Token.isAlpha_iff, Char.le_def, or_assoc,
    val_eq_underscore_iff]

theorem within_wordPart :
    within [('A', 'Z'), ('a', 'z'), ('0', '9'), ('_', '_')] = Token.isWordPart := by
  funext c
  rw [Bool.eq_iff_iff]
  simp [within, Token.isWordPart, Char.isAlphanum, Token.isAlpha_iff, Token.isDigit_iff,
    Char.le_def, or_assoc, val_eq_underscore_iff]

/-! ## What the pattern finds -/

/-- The preferred repetition takes all that it can. -/
theorem head?_repetitions (test : Char → Bool) (s : List Char) :
    (repetitions test s).head? = some (s.takeWhile test, s.dropWhile test) := by
  induction s with
  | nil => rfl
  | cons c cs ih =>
      rw [repetitions]
      by_cases h : test c = true
      · rw [if_pos h, List.head?_append, List.head?_map, ih]
        simp [Way.push, h]
      · simp [h]

/-- Where the next character is not blank, the preferred way is the one that
`Token.split` takes. -/
theorem head?_ways_token (c : Char) (cs : List Char) :
    (token.ways (c :: cs)).head? =
      if isBlank c then none else some (Token.split c cs) := by
  simp only [token, ways, within_wordStart, within_wordPart]
  by_cases hc : Token.isWordStart c = true
  · have hb : isBlank c = false := Token.isBlank_of_isWordStart hc
    simp [hc, hb, Token.split, head?_repetitions]
  · by_cases hb : isBlank c = true
    · simp [hc, hb]
    · simp [hc, hb, Token.split]

/-- The search skips blanks, and then cuts off what `Token.split` cuts off. -/
theorem find?_token (s : List Char) :
    token.find? s =
      match s.dropWhile isBlank with
      | [] => none
      | x :: xs => some (s.takeWhile isBlank, Token.split x xs) := by
  induction s with
  | nil => rfl
  | cons c cs ih =>
      rw [find?, head?_ways_token]
      by_cases hb : isBlank c = true
      · simp only [hb, if_true, List.dropWhile_cons_of_pos, List.takeWhile_cons_of_pos]
        rw [ih]
        cases cs.dropWhile isBlank with
        | nil => rfl
        | cons x xs => rfl
      · simp [hb]

end Rule

/-! ## Stepping from match to match -/

namespace Cursor

/-- Passes over a gap and a match, counting both: the token, and the place
behind it. -/
def pass (c : Cursor) (gap run rest : List Char) : Token × Cursor :=
  let start := c.chars + gap.length
  let byteStart := c.bytes + byteLength gap
  let stop := start + run.length
  let byteStop := byteStart + byteLength run
  (⟨String.ofList run, start, stop, byteStart, byteStop⟩, ⟨rest, stop, byteStop⟩)

/-- A cursor steps from one match of the pattern to the next. -/
theorem next?_eq_find? (c : Cursor) :
    c.next? = (Rule.token.find? c.rest).map fun m => c.pass m.1 m.2.1 m.2.2 := by
  rw [Rule.find?_token, next?]
  cases c.rest.dropWhile isBlank with
  | nil => rfl
  | cons x xs => rfl

end Cursor

end Glossary
