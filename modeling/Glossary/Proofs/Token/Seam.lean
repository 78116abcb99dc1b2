import Glossary.Proofs.Token.Lone
import Glossary.Proofs.Token.Whole

/-!
# Texts put together

Where two texts are put together, the tokens of the second are found where they
were, only further on: by the characters and the bytes of the first. There is
one exception. A text that ends in a word does not close it, so a second text
that begins with a character of words carries the word on, and its own tokens
begin behind what was carried over.

A step of the scan looks at what follows a token only to see where a word ends.
So a step in the first text is the same step in both texts, unless it reaches
the end of the first text in a word, and this is the whole case distinction.
The inductions are along the tokens of the first text.

## Main results

* `Cursor.tokens_shift` — a scan does not depend on what was counted before it.
* `Cursor.tokens_append` — the tokens of both texts, when no word is carried on.
* `Cursor.EndsInWord.tokens_append` — the same when a word is carried on.
* `Token.scanAll_append` — the law for whole texts.
-/

namespace Glossary

open Text

/-! ## Lexemes and what follows them -/

namespace Token

/-- The token as it stands behind `chars` more characters of `bytes` bytes. -/
def shift (chars bytes : Nat) (t : Token) : Token :=
  ⟨t.text, t.start + chars, t.stop + chars, t.byteStart + bytes, t.byteStop + bytes⟩

/-- The token with more text at its end. -/
def extend (t : Token) (more : String) : Token :=
  ⟨t.text ++ more, t.start, t.stop + more.toList.length, t.byteStart,
    t.byteStop + more.utf8ByteSize⟩

theorem toList_extend (t : Token) (more : String) :
    (t.extend more).text.toList = t.text.toList ++ more.toList := String.toList_append

/-- The text does not carry a word on. -/
def Closes (s : List Char) : Prop := ∀ x ∈ s.head?, isWordPart x = false

/-- A lexeme stays one with more text behind it, unless the text carries a word on. -/
theorem Lexeme.append {run after more : List Char} (h : Lexeme run after)
    (hmore : after = [] → Rule.word.MatchesAll run → Closes more) :
    Lexeme run (after ++ more) := by
  cases h with
  | lone solid other => exact .lone solid other
  | word start parts stops =>
      refine .word start parts ?_
      cases after with
      | nil => exact hmore rfl (Rule.matchesAll_word_iff.2 ⟨_, _, rfl, start, parts⟩)
      | cons d ds => exact stops

/-- A word that is carried on is a longer word. -/
theorem lexeme_append_of_word {run more rest : List Char} (hrun : Rule.word.MatchesAll run)
    (hmore : ∀ x ∈ more, isWordPart x = true) (hrest : Closes rest) :
    Lexeme (run ++ more) rest := by
  obtain ⟨c, parts, rfl, hstart, hparts⟩ := Rule.matchesAll_word_iff.1 hrun
  refine .word hstart ?_ hrest
  intro x hx
  rcases List.mem_append.1 hx with hx | hx
  · exact hparts x hx
  · exact hmore x hx

end Token

open Token

namespace Cursor

/-! ## Scans that begin elsewhere -/

/-- The same text behind `chars` more characters of `bytes` bytes. -/
def shift (chars bytes : Nat) (c : Cursor) : Cursor :=
  ⟨c.rest, c.chars + chars, c.bytes + bytes⟩

theorem Step.shift {c d : Cursor} {gap : List Char} {t : Token} (h : c.Step gap t d)
    (chars bytes : Nat) :
    (c.shift chars bytes).Step gap (t.shift chars bytes) (d.shift chars bytes) where
  cut := h.cut
  start_eq := by
    show t.start + chars = c.chars + chars + gap.length
    rw [h.start_eq]
    omega
  stop_eq := by
    show t.stop + chars = t.start + chars + t.text.toList.length
    rw [h.stop_eq]
    omega
  byteStart_eq := by
    show t.byteStart + bytes = c.bytes + bytes + byteLength gap
    rw [h.byteStart_eq]
    omega
  byteStop_eq := by
    show t.byteStop + bytes = t.byteStart + bytes + byteLength t.text.toList
    rw [h.byteStop_eq]
    omega
  chars_eq := congrArg (· + chars) h.chars_eq
  bytes_eq := congrArg (· + bytes) h.bytes_eq

/-- A scan does not depend on what was counted before it. -/
theorem tokens_shift (c : Cursor) (chars bytes : Nat) :
    (c.shift chars bytes).tokens = c.tokens.map (Token.shift chars bytes) := by
  induction c using Cursor.tokens.induct with
  | case1 c h =>
      have hblank : ∀ x ∈ c.rest, isBlank x = true := next?_eq_none_iff.1 h
      have hshifted : (c.shift chars bytes).tokens = [] := tokens_of_blank hblank
      rw [tokens_of_blank hblank, hshifted, List.map_nil]
  | case2 c t d h ih =>
      obtain ⟨gap, hstep⟩ := next?_eq_some_iff.1 h
      rw [hstep.tokens_eq, (hstep.shift chars bytes).tokens_eq, ih, List.map_cons]

/-! ## Scans of longer texts -/

/-- The same place with more text at the end. -/
def append (c : Cursor) (more : List Char) : Cursor := ⟨c.rest ++ more, c.chars, c.bytes⟩

/-- The place behind all that is left, in front of more text. -/
def past (c : Cursor) (more : List Char) : Cursor :=
  ⟨more, c.chars + c.rest.length, c.bytes + byteLength c.rest⟩

/-- The scan from `c` finds `front` and then `last`, a word at the end of the text. -/
structure EndsInWord (c : Cursor) (front : List Token) (last : Token) : Prop where
  tokens_eq : c.tokens = front ++ [last]
  word : Rule.word.MatchesAll last.text.toList
  stop_eq : last.stop = c.chars + c.rest.length

/-- A step does not move the end of the text. -/
theorem Step.end_eq {c d : Cursor} {gap : List Char} {t : Token} (h : c.Step gap t d) :
    d.chars + d.rest.length = c.chars + c.rest.length := by
  rw [h.cut.eq, h.chars_eq, h.stop_eq, h.start_eq, List.length_append, List.length_append]
  omega

theorem Step.past_eq {c d : Cursor} {gap : List Char} {t : Token} (h : c.Step gap t d)
    (more : List Char) : d.past more = c.past more := by
  rw [past, past, Cursor.mk.injEq]
  refine ⟨rfl, h.end_eq, ?_⟩
  rw [h.cut.eq, h.bytes_eq, h.byteStop_eq, h.byteStart_eq, byteLength_append, byteLength_append]
  omega

/-- A step is the same with more text at the end, unless the text carries its word on. -/
theorem Step.append {c d : Cursor} {gap more : List Char} {t : Token} (h : c.Step gap t d)
    (hmore : d.rest = [] → Rule.word.MatchesAll t.text.toList → Closes more) :
    (c.append more).Step gap t (d.append more) where
  cut := by
    refine ⟨?_, h.cut.blank, h.cut.lexeme.append hmore⟩
    show c.rest ++ more = gap ++ (t.text.toList ++ (d.rest ++ more))
    rw [h.cut.eq, List.append_assoc, List.append_assoc]
  start_eq := h.start_eq
  stop_eq := h.stop_eq
  byteStart_eq := h.byteStart_eq
  byteStop_eq := h.byteStop_eq
  chars_eq := h.chars_eq
  bytes_eq := h.bytes_eq

/-- The token of a step that reaches the end of the text is the last one. -/
theorem Step.endsInWord {c d : Cursor} {gap : List Char} {t : Token} (h : c.Step gap t d)
    (hend : d.rest = []) (hword : Rule.word.MatchesAll t.text.toList) : c.EndsInWord [] t where
  tokens_eq := by rw [h.tokens_eq, tokens_of_blank (by simp [hend]), List.nil_append]
  word := hword
  stop_eq := by rw [← h.chars_eq, ← h.end_eq, hend, List.length_nil, Nat.add_zero]

theorem EndsInWord.cons {c d : Cursor} {gap : List Char} {t last : Token} {front : List Token}
    (h : d.EndsInWord front last) (hstep : c.Step gap t d) :
    c.EndsInWord (t :: front) last where
  tokens_eq := by rw [hstep.tokens_eq, h.tokens_eq, List.cons_append]
  word := h.word
  stop_eq := by rw [h.stop_eq, hstep.end_eq]

/-- Blanks in front of a text only move it. -/
theorem tokens_append_of_blank {c : Cursor} (h : ∀ x ∈ c.rest, isBlank x = true)
    (more : List Char) : (c.append more).tokens = (c.past more).tokens := by
  cases hnext : (c.past more).next? with
  | none =>
      have hmore : ∀ x ∈ more, isBlank x = true := next?_eq_none_iff.1 hnext
      have hboth : (c.append more).tokens = [] := by
        refine tokens_of_blank fun x hx => ?_
        exact (List.mem_append.1 hx).elim (h x) (hmore x)
      rw [tokens_of_none hnext, hboth]
  | some p =>
      obtain ⟨t, d⟩ := p
      obtain ⟨gap, hstep⟩ := next?_eq_some_iff.1 hnext
      have hboth : (c.append more).Step (c.rest ++ gap) t d := by
        refine ⟨⟨?_, ?_, hstep.cut.lexeme⟩, ?_, hstep.stop_eq, ?_, hstep.byteStop_eq,
          hstep.chars_eq, hstep.bytes_eq⟩
        · show c.rest ++ more = _
          rw [List.append_assoc, ← hstep.cut.eq]
          rfl
        · intro x hx
          exact (List.mem_append.1 hx).elim (h x) (hstep.cut.blank x)
        · rw [hstep.start_eq, List.length_append, ← Nat.add_assoc]
          rfl
        · rw [hstep.byteStart_eq, byteLength_append, ← Nat.add_assoc]
          rfl
      rw [hstep.tokens_eq, hboth.tokens_eq]

/-- The tokens of both texts, when no word is carried on. -/
theorem tokens_append {c : Cursor} {more : List Char}
    (h : ∀ front last, c.EndsInWord front last → Closes more) :
    (c.append more).tokens = c.tokens ++ (c.past more).tokens := by
  induction c using Cursor.tokens.induct with
  | case1 c hnone =>
      rw [tokens_of_none hnone, List.nil_append]
      exact tokens_append_of_blank (next?_eq_none_iff.1 hnone) more
  | case2 c t d hsome ih =>
      obtain ⟨gap, hstep⟩ := next?_eq_some_iff.1 hsome
      have hboth : (c.append more).Step gap t (d.append more) :=
        hstep.append fun hend hword => h [] t (hstep.endsInWord hend hword)
      have hrest := ih fun front last hlast => h (t :: front) last (hlast.cons hstep)
      rw [hstep.tokens_eq, hboth.tokens_eq, hrest, hstep.past_eq, List.cons_append]

/-- Where the last token is the only one, the scan takes one step and is at the end. -/
theorem EndsInWord.exists_step {c : Cursor} {last : Token} (h : c.EndsInWord [] last) :
    ∃ gap d, c.Step gap last d ∧ d.rest = [] := by
  obtain ⟨gap, d, hstep, -⟩ := exists_step_of_tokens_eq h.tokens_eq
  refine ⟨gap, d, hstep, List.eq_nil_of_length_eq_zero ?_⟩
  have hend := hstep.end_eq
  rw [hstep.chars_eq, h.stop_eq] at hend
  omega

/-- A step that reaches the end of the text in a word goes on as far as the word does. -/
theorem Step.extend {c d : Cursor} {gap rest : List Char} {t : Token} {more : String}
    (h : c.Step gap t d) (hend : d.rest = []) (hword : Rule.word.MatchesAll t.text.toList)
    (hmore : ∀ x ∈ more.toList, isWordPart x = true) (hrest : Closes rest) :
    (c.append (more.toList ++ rest)).Step gap (t.extend more)
      ((c.append more.toList).past rest) := by
  have hsplit : c.rest = gap ++ t.text.toList := by
    rw [h.cut.eq, hend, List.append_nil]
  refine ⟨⟨?_, h.cut.blank, ?_⟩, h.start_eq, ?_, h.byteStart_eq, ?_, ?_, ?_⟩
  · show c.rest ++ (more.toList ++ rest) = gap ++ ((t.extend more).text.toList ++ rest)
    rw [hsplit, toList_extend, List.append_assoc, List.append_assoc]
  · rw [toList_extend]
    exact lexeme_append_of_word hword hmore hrest
  · show t.stop + more.toList.length = t.start + _
    rw [h.stop_eq, toList_extend, List.length_append, Nat.add_assoc]
  · show t.byteStop + more.utf8ByteSize = t.byteStart + _
    rw [h.byteStop_eq, toList_extend, byteLength_append, byteLength_toList more,
      Nat.add_assoc]
  · show c.chars + (c.rest ++ more.toList).length = t.stop + more.toList.length
    rw [h.stop_eq, h.start_eq, hsplit, List.length_append, List.length_append]
    omega
  · show c.bytes + byteLength (c.rest ++ more.toList) = t.byteStop + more.utf8ByteSize
    rw [h.byteStop_eq, h.byteStart_eq, hsplit, byteLength_append, byteLength_append,
      byteLength_toList more]
    omega

/-- The tokens of both texts, when the last word of the first one is carried on. -/
theorem EndsInWord.tokens_append {c : Cursor} {front : List Token} {last : Token}
    (h : c.EndsInWord front last) {more : String} {rest : List Char}
    (hmore : ∀ x ∈ more.toList, isWordPart x = true) (hrest : Closes rest) :
    (c.append (more.toList ++ rest)).tokens =
      front ++ last.extend more :: ((c.append more.toList).past rest).tokens := by
  induction front generalizing c with
  | nil =>
      obtain ⟨gap, d, hstep, hend⟩ := h.exists_step
      have hboth := hstep.extend hend h.word hmore hrest
      rw [hboth.tokens_eq, List.nil_append]
  | cons t front ih =>
      obtain ⟨gap, d, hstep, htokens⟩ := exists_step_of_tokens_eq h.tokens_eq
      have hd : d.EndsInWord front last := ⟨htokens, h.word, by rw [h.stop_eq, hstep.end_eq]⟩
      have hsome : d.rest ≠ [] := by
        intro hend
        rw [tokens_of_blank (by simp [hend])] at htokens
        simp at htokens
      have hboth (s : List Char) : (c.append s).Step gap t (d.append s) :=
        hstep.append fun hend => absurd hend hsome
      rw [(hboth _).tokens_eq, ih hd, (hboth more.toList).past_eq, List.cons_append]

end Cursor

/-! ## Whole texts -/

namespace Token

/-- As much of a text as can carry a word on. -/
def carried (text : String) : String := String.ofList (text.toList.takeWhile isWordPart)

/-- What is left of a text behind that. -/
def uncarried (text : String) : String := String.ofList (text.toList.dropWhile isWordPart)

theorem carried_append_uncarried (text : String) : carried text ++ uncarried text = text := by
  rw [← String.toList_inj, String.toList_append, carried, uncarried, String.toList_ofList,
    String.toList_ofList, List.takeWhile_append_dropWhile]

theorem isWordPart_of_mem_carried {text : String} :
    ∀ x ∈ (carried text).toList, isWordPart x = true := by
  rw [carried, String.toList_ofList]
  exact List.all_eq_true.1 List.all_takeWhile

theorem closes_uncarried (text : String) : Closes (uncarried text).toList := by
  intro x hx
  have hstop := List.head?_dropWhile_not isWordPart text.toList
  rw [uncarried, String.toList_ofList, Option.mem_def] at hx
  simpa [hx] using hstop

/-- The last of the tokens of `a` is a word at its end, and `b` carries the word on. -/
structure Joins (ts : List Token) (a b : String) : Prop where
  word : ∃ last, ts.getLast? = some last ∧ Rule.word.MatchesAll last.text.toList ∧
    last.stop = a.toList.length
  carries : ∃ x, b.toList.head? = some x ∧ isWordPart x = true

theorem append_ofText (a b : String) :
    (Cursor.ofText a).append b.toList = .ofText (a ++ b) := by
  rw [Cursor.append, Cursor.ofText, Cursor.ofText, String.toList_append]

/-- What is left behind a text, counted from the beginning of what is left. -/
theorem tokens_past_ofText (a b : String) :
    ((Cursor.ofText a).past b.toList).tokens =
      (Cursor.ofText b).tokens.map (shift a.toList.length a.utf8ByteSize) := by
  rw [← Cursor.tokens_shift, ← byteLength_toList]
  rfl

theorem tokens_append_of_not_joins {a b : String} (h : ¬ Joins (Cursor.ofText a).tokens a b) :
    (Cursor.ofText (a ++ b)).tokens = (Cursor.ofText a).tokens ++
      (Cursor.ofText b).tokens.map (shift a.toList.length a.utf8ByteSize) := by
  rw [← append_ofText, ← tokens_past_ofText]
  refine Cursor.tokens_append fun front last hlast x hx => Bool.eq_false_iff.2 fun hpart => h ?_
  refine ⟨⟨last, ?_, hlast.word, ?_⟩, x, hx, hpart⟩
  · rw [hlast.tokens_eq, List.getLast?_concat]
  · rw [hlast.stop_eq]
    exact Nat.zero_add _

theorem tokens_append_of_joins {a b : String} (h : Joins (Cursor.ofText a).tokens a b) :
    ∃ front last, (Cursor.ofText a).tokens = front ++ [last] ∧
      (Cursor.ofText (a ++ b)).tokens = front ++ last.extend (carried b) ::
        (Cursor.ofText (uncarried b)).tokens.map
          (shift (a ++ carried b).toList.length (a ++ carried b).utf8ByteSize) := by
  obtain ⟨⟨last, hlast, hword, hstop⟩, -⟩ := h
  obtain ⟨front, htokens⟩ := List.getLast?_eq_some_iff.1 hlast
  have hends : (Cursor.ofText a).EndsInWord front last := by
    refine ⟨htokens, hword, ?_⟩
    rw [hstop]
    exact (Nat.zero_add _).symm
  refine ⟨front, last, htokens, ?_⟩
  rw [← tokens_past_ofText, ← append_ofText, ← append_ofText,
    ← hends.tokens_append isWordPart_of_mem_carried (closes_uncarried b),
    ← String.toList_append, carried_append_uncarried]

/-- A word that is carried on ends further on. -/
theorem stop_lt_stop_extend {ts : List Token} {a b : String} (h : Joins ts a b) (t : Token) :
    t.stop < (t.extend (carried b)).stop := by
  obtain ⟨x, hx, hpart⟩ := h.carries
  obtain ⟨xs, hb⟩ := List.head?_eq_some_iff.1 hx
  show t.stop < t.stop + (carried b).toList.length
  rw [carried, String.toList_ofList, hb, List.takeWhile_cons_of_pos hpart, List.length_cons]
  omega

/-- All tokens of two texts put together are those of the first and then those of the second,
counted on, unless the first text ends in a word and the second one begins with a character
of words. There the word goes on, as far as such characters go, and the tokens of the rest of
the second text follow. -/
theorem scanAll_append (a b : String) (h : (a ++ b).utf8ByteSize ≤ Limits.maxInputSize) :
    ∃ ts us, scanAll a = .ok ts ∧ scanAll b = .ok us ∧
      (scanAll (a ++ b) = .ok (ts ++ us.map (shift a.toList.length a.utf8ByteSize)) ↔
        ¬ Joins ts a b) ∧
      (Joins ts a b → ∃ front last vs, ts = front ++ [last] ∧ scanAll (uncarried b) = .ok vs ∧
        scanAll (a ++ b) = .ok (front ++ last.extend (carried b) ::
          vs.map (shift (a ++ carried b).toList.length (a ++ carried b).utf8ByteSize))) := by
  have hbytes : (a ++ b).utf8ByteSize = a.utf8ByteSize + b.utf8ByteSize :=
    String.utf8ByteSize_append
  have hrest : (uncarried b).utf8ByteSize ≤ b.utf8ByteSize := by
    conv => rhs; rw [← carried_append_uncarried b, String.utf8ByteSize_append]
    omega
  refine ⟨_, _, scanAll_eq_ok (by omega), scanAll_eq_ok (by omega), ?_, ?_⟩
  · rw [scanAll_eq_ok h, Except.ok.injEq]
    refine ⟨fun heq hjoins => ?_, tokens_append_of_not_joins⟩
    -- the word that is carried on stands where the last token of the first text stood
    obtain ⟨front, last, hfront, hboth⟩ := tokens_append_of_joins hjoins
    rw [hboth, hfront, List.append_assoc, List.append_cancel_left_eq] at heq
    have hlast : last.extend (carried b) = last := (List.cons.inj heq).1
    have hlt := stop_lt_stop_extend hjoins last
    rw [hlast] at hlt
    exact Nat.lt_irrefl _ hlt
  · intro hjoins
    obtain ⟨front, last, hfront, hboth⟩ := tokens_append_of_joins hjoins
    refine ⟨front, last, _, hfront, scanAll_eq_ok (by omega), ?_⟩
    rw [scanAll_eq_ok h, hboth]

/-- A digit carries the word on, and a letter that is not of ASCII does not. -/
theorem scanAll_append_digit :
    ("x1" ++ "9é").utf8ByteSize ≤ Limits.maxInputSize ∧
      scanAll ("x1" ++ "9é") = .ok [⟨"x19", 0, 3, 0, 3⟩, ⟨"é", 3, 4, 3, 5⟩] := by
  have hle : ("x1" ++ "9é").utf8ByteSize ≤ Limits.maxInputSize := by decide
  have hfirst : scanAll "x1" = .ok [⟨"x1", 0, 2, 0, 2⟩] := by
    have hlexeme : Lexeme "x1".toList [] :=
      lexeme_of_single_or_word (by simp [isBlank]) (.inr (by decide))
    rw [scanAll_eq_ok (by decide), Cursor.tokens_of_lexeme hlexeme]
    decide
  have hrest : scanAll (uncarried "9é") = .ok [⟨"é", 0, 1, 0, 2⟩] := by
    have hlexeme : Lexeme "é".toList [] :=
      lexeme_of_single_or_word (by simp [isBlank]) (.inl (by decide))
    rw [show uncarried "9é" = "é" by decide, scanAll_eq_ok (by decide),
      Cursor.tokens_of_lexeme hlexeme]
    decide
  have hjoins : Joins [⟨"x1", 0, 2, 0, 2⟩] "x1" "9é" :=
    ⟨⟨_, rfl, by decide, by decide⟩, '9', by decide, by decide⟩
  obtain ⟨ts, us, hts, -, -, hboth⟩ := scanAll_append "x1" "9é" hle
  rw [hfirst] at hts
  obtain rfl := Except.ok.inj hts
  obtain ⟨front, last, vs, hfront, hvs, heq⟩ := hboth hjoins
  rw [hrest] at hvs
  obtain rfl := Except.ok.inj hvs
  have hparts : [] ++ [⟨"x1", 0, 2, 0, 2⟩] = front ++ [last] := hfront
  obtain ⟨rfl, hlast⟩ := List.append_inj' hparts rfl
  obtain rfl := List.singleton_inj.1 hlast
  refine ⟨hle, heq.trans ?_⟩
  decide

end Token

end Glossary
