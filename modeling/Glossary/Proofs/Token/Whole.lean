import Glossary.Proofs.Token.Order

/-!
# The whole scan, and what limits leave of it

Whether a text is scanned at all depends on its bytes alone. All that is asked of
a text that is scanned can be read off the list of its tokens: the first few of
them, all if there are not too many, and the one that covers an offset. The limit
for tokens stands in only one of these answers.

## Main results

* `Token.scanAll_eq_error_iff` — the texts that are not scanned.
* `Token.scan_eq_scanAll`, `Token.tokenize_eq_scanAll`, `Token.at?_eq_scanAll` — what
  is answered of all other texts.
-/

namespace Glossary

open Text

/-! ## Steps and the tokens they find -/

namespace Cursor

theorem Step.tokens_eq {c d : Cursor} {gap : List Char} {t : Token} (h : c.Step gap t d) :
    c.tokens = t :: d.tokens := tokens_of_some (next?_eq_some_iff.2 ⟨gap, h⟩)

theorem exists_step_of_tokens_eq {c : Cursor} {t : Token} {ts : List Token}
    (h : c.tokens = t :: ts) : ∃ gap d, c.Step gap t d ∧ d.tokens = ts := by
  obtain ⟨d, hnext, htokens⟩ := tokens_eq_cons_iff.1 h
  obtain ⟨gap, hstep⟩ := next?_eq_some_iff.1 hnext
  exact ⟨gap, d, hstep, htokens⟩

theorem tokens_of_blank {c : Cursor} (h : ∀ x ∈ c.rest, isBlank x = true) : c.tokens = [] :=
  tokens_of_none (next?_eq_none_iff.2 h)

end Cursor

/-! ## All tokens -/

namespace Token

/-- All tokens of a text, however many they are. -/
def scanAll (text : String) : Except ScanError (List Token) := (cursor text).map (·.tokens)

theorem cursor_eq_error_iff {text : String} {e : ScanError} :
    cursor text = .error e ↔
      Limits.maxInputSize < text.utf8ByteSize ∧ e = .inputTooLarge text.utf8ByteSize := by
  unfold cursor
  by_cases h : Limits.maxInputSize < text.utf8ByteSize
  · rw [if_pos h, Except.error.injEq, eq_comm]
    exact ⟨fun he => ⟨h, he⟩, And.right⟩
  · rw [if_neg h]
    exact ⟨nofun, fun he => absurd he.1 h⟩

theorem scanAll_eq_error_iff {text : String} {e : ScanError} :
    scanAll text = .error e ↔
      Limits.maxInputSize < text.utf8ByteSize ∧ e = .inputTooLarge text.utf8ByteSize := by
  rw [← cursor_eq_error_iff, scanAll]
  cases cursor text with
  | error e' => simp only [Except.map, Except.error.injEq]
  | ok c => exact ⟨nofun, nofun⟩

theorem scanAll_eq_ok_iff {text : String} {ts : List Token} :
    scanAll text = .ok ts ↔
      text.utf8ByteSize ≤ Limits.maxInputSize ∧ ts = (Cursor.ofText text).tokens := by
  rw [scanAll]
  constructor
  · intro h
    cases hcursor : cursor text with
    | error e =>
        rw [hcursor] at h
        cases h
    | ok c =>
        obtain ⟨hle, rfl⟩ := cursor_eq_ok_iff.1 hcursor
        rw [hcursor] at h
        exact ⟨hle, (Except.ok.inj h).symm⟩
  · rintro ⟨hle, rfl⟩
    rw [cursor_eq_ok_iff.2 ⟨hle, rfl⟩]
    rfl

theorem scanAll_eq_ok {text : String} (h : text.utf8ByteSize ≤ Limits.maxInputSize) :
    scanAll text = .ok (Cursor.ofText text).tokens := scanAll_eq_ok_iff.2 ⟨h, rfl⟩

/-- A bounded scan gives the first of all tokens. -/
theorem scan_eq_scanAll (n : Nat) (text : String) :
    scan n text = (scanAll text).map fun ts => (ts.take n).toArray := by
  rw [scan, scanAll]
  cases cursor text with
  | error e => rfl
  | ok c =>
      show Except.ok (c.take n #[]) = Except.ok (c.tokens.take n).toArray
      have htake : (c.take n #[]).toList = c.tokens.take n := Cursor.take_toList n c #[]
      rw [← htake, Array.toArray_toList]

/-- All tokens are given unless there are too many, and then it is told at which one the
scan gave up: the first one over the limit. -/
theorem tokenize_eq_scanAll (text : String) :
    tokenize text = (scanAll text).bind fun ts =>
      if Limits.maxTokenCount < ts.length then .error (.tooManyTokens (Limits.maxTokenCount + 1))
      else .ok ts.toArray := by
  rw [tokenize, scan_eq_scanAll]
  cases scanAll text with
  | error e => rfl
  | ok ts =>
      show (if Limits.maxTokenCount < (ts.take (Limits.maxTokenCount + 1)).toArray.size then
        Except.error (ScanError.tooManyTokens (ts.take (Limits.maxTokenCount + 1)).toArray.size)
          else .ok (ts.take (Limits.maxTokenCount + 1)).toArray) =
        if Limits.maxTokenCount < ts.length then
          .error (.tooManyTokens (Limits.maxTokenCount + 1)) else .ok ts.toArray
      rw [List.size_toArray, List.length_take]
      by_cases h : Limits.maxTokenCount < ts.length
      · have hmin : min (Limits.maxTokenCount + 1) ts.length = Limits.maxTokenCount + 1 := by
          omega
        rw [if_pos h, hmin, if_pos (Nat.lt_succ_self _)]
      · rw [if_neg h, if_neg (by omega), List.take_of_length_le (by omega)]

/-- The token at an offset is looked for among all tokens. -/
theorem at?_eq_scanAll (text : String) (offset : Nat) :
    at? text offset = (scanAll text).map fun ts => ts.find? (·.covers offset) := by
  rw [at?, scanAll]
  cases cursor text with
  | error e => rfl
  | ok c => exact congrArg Except.ok (Cursor.seek_eq_find? c offset)

end Token

end Glossary
