import Glossary.Proofs.Text.Slice
import Glossary.Proofs.Token.Pattern
import Mathlib.Data.List.TakeWhile

/-!
# The one way to cut a text into tokens

A list of tokens *tokenizes* a text when every token stands where its offsets
say, gaps and tokens in a row give the text back, the gaps are blank, and each
token is a lexeme: a word that goes no further, or a single character that
starts no word. Nothing in this definition scans.

The scan yields such a list, and no other list is one. Both follow from one
fact about a step: where a list that tokenizes the rest of a text begins, the
cursor finds that very token, and the tail of the list tokenizes what is left.

## Main results

* `Cursor.next?_eq_some_iff` — what one step of the scan does.
* `Cursor.tokenizes_iff` — from any place that a scan can reach, the tokens
  found are the only tokenization of the rest.
* `Token.tokenizes_iff_of_le` — the same for a whole text within the limit.
-/

namespace Glossary

open Text

/-! ## Lexemes -/

namespace Token

/-- What a token may be, in front of what follows it. -/
inductive Lexeme : List Char → List Char → Prop where
  /-- A single character that starts no word. -/
  | lone {c : Char} {after : List Char} (solid : isBlank c = false)
      (other : isWordStart c = false) : Lexeme [c] after
  /-- A word that does not go on behind its end. -/
  | word {c : Char} {run after : List Char} (start : isWordStart c = true)
      (parts : ∀ d ∈ run, isWordPart d = true)
      (stops : ∀ d ∈ after.head?, isWordPart d = false) : Lexeme (c :: run) after

theorem Lexeme.length_pos {run after : List Char} (h : Lexeme run after) :
    0 < run.length := by
  cases h with
  | lone => exact Nat.one_pos
  | word => exact Nat.succ_pos _

/-- No character of a lexeme is blank. -/
theorem Lexeme.solid {run after : List Char} (h : Lexeme run after) :
    ∀ c ∈ run, isBlank c = false := by
  intro c hc
  cases h with
  | lone solid other =>
      rw [List.mem_singleton.1 hc]
      exact solid
  | word start parts stops =>
      rcases List.mem_cons.1 hc with rfl | hc
      · exact isBlank_of_isWordStart start
      · exact isBlank_of_isWordPart (parts c hc)

/-- A lexeme is what `split` cuts off. -/
theorem Lexeme.split_eq {c : Char} {run after : List Char} (h : Lexeme (c :: run) after) :
    split c (run ++ after) = (c :: run, after) := by
  cases h with
  | lone solid other => simp [split, other]
  | word start parts stops =>
      have hafter : after.takeWhile isWordPart = [] ∧ after.dropWhile isWordPart = after := by
        cases after with
        | nil => exact ⟨rfl, rfl⟩
        | cons d ds => simp [stops d rfl]
      simp only [split, start, if_true]
      rw [List.takeWhile_append_of_pos parts, List.dropWhile_append_of_pos parts,
        hafter.1, hafter.2, List.append_nil]

/-- What `split` cuts off is a lexeme. -/
theorem lexeme_split {c : Char} (rest : List Char) (hc : isBlank c = false) :
    Lexeme (split c rest).1 (split c rest).2 := by
  unfold split
  by_cases hs : isWordStart c = true
  · rw [if_pos hs]
    refine .word hs (fun d hd => List.all_eq_true.1 List.all_takeWhile d hd) ?_
    intro d hd
    have hstop := List.head?_dropWhile_not isWordPart rest
    simp only [Option.mem_def] at hd
    simpa [hd] using hstop
  · rw [if_neg hs]
    exact .lone hc (Bool.eq_false_iff.2 hs)

/-- A text that begins with a gap and then a lexeme. -/
structure Cut (s gap run rest : List Char) : Prop where
  eq : s = gap ++ (run ++ rest)
  blank : ∀ c ∈ gap, isBlank c = true
  lexeme : Lexeme run rest

end Token

/-! ## One step of the scan -/

/-- The pattern finds the first lexeme, whatever the text. -/
theorem Rule.find?_token_eq_some_iff {s gap run rest : List Char} :
    Rule.token.find? s = some (gap, run, rest) ↔ Token.Cut s gap run rest := by
  rw [Rule.find?_token]
  constructor
  · intro h
    cases hd : s.dropWhile isBlank with
    | nil => simp [hd] at h
    | cons x xs =>
        simp only [hd, Option.some.injEq, Prod.mk.injEq] at h
        obtain ⟨rfl, hsplit⟩ := h
        have hx : isBlank x = false := by
          have hstop := List.head?_dropWhile_not isBlank s
          simpa [hd] using hstop
        have hrun : (Token.split x xs).1 = run := by rw [hsplit]
        have hrest : (Token.split x xs).2 = rest := by rw [hsplit]
        subst hrun hrest
        refine ⟨?_, fun c hc => List.all_eq_true.1 List.all_takeWhile c hc,
          Token.lexeme_split xs hx⟩
        rw [Token.split_append, ← hd, List.takeWhile_append_dropWhile]
  · intro h
    obtain ⟨x, xs, rfl⟩ : ∃ x xs, run = x :: xs :=
      List.exists_cons_of_length_pos h.lexeme.length_pos
    have hx : ¬ isBlank x = true := by simp [h.lexeme.solid x (by simp)]
    rw [h.eq, List.dropWhile_append_of_pos h.blank, List.takeWhile_append_of_pos h.blank,
      List.cons_append, List.dropWhile_cons_of_neg hx, List.takeWhile_cons_of_neg hx]
    simp [h.lexeme.split_eq]

namespace Cursor

/-- From `c` the scan passes over `gap`, finds `t` and stops at `d`. -/
structure Step (c : Cursor) (gap : List Char) (t : Token) (d : Cursor) : Prop where
  cut : Token.Cut c.rest gap t.text.toList d.rest
  start_eq : t.start = c.chars + gap.length
  stop_eq : t.stop = t.start + t.text.toList.length
  byteStart_eq : t.byteStart = c.bytes + byteLength gap
  byteStop_eq : t.byteStop = t.byteStart + byteLength t.text.toList
  chars_eq : d.chars = t.stop
  bytes_eq : d.bytes = t.byteStop

theorem step_pass {c : Cursor} {gap run rest : List Char} (h : Token.Cut c.rest gap run rest) :
    c.Step gap (c.pass gap run rest).1 (c.pass gap run rest).2 := by
  refine ⟨?_, rfl, ?_, rfl, ?_, rfl, rfl⟩
  · simpa [pass] using h
  · simp [pass]
  · simp [pass]

theorem Step.eq_pass {c d : Cursor} {gap : List Char} {t : Token} (h : c.Step gap t d) :
    (t, d) = c.pass gap t.text.toList d.rest := by
  cases t
  cases d
  simp only [pass, String.ofList_toList, ← h.start_eq, ← h.byteStart_eq, ← h.stop_eq,
    ← h.byteStop_eq]
  rw [Prod.mk.injEq, Cursor.mk.injEq]
  exact ⟨rfl, rfl, h.chars_eq, h.bytes_eq⟩

/-- What a step finds: the lexeme behind the next gap. -/
theorem next?_eq_some_iff {c d : Cursor} {t : Token} :
    c.next? = some (t, d) ↔ ∃ gap, c.Step gap t d := by
  rw [next?_eq_find?, Option.map_eq_some_iff]
  constructor
  · rintro ⟨⟨gap, run, rest⟩, h, hp⟩
    obtain ⟨rfl, rfl⟩ := Prod.mk.inj hp
    exact ⟨gap, step_pass (Rule.find?_token_eq_some_iff.1 h)⟩
  · rintro ⟨gap, h⟩
    exact ⟨(gap, t.text.toList, d.rest), Rule.find?_token_eq_some_iff.2 h.cut, h.eq_pass.symm⟩

/-- A step finds nothing when only blanks are left. -/
theorem next?_eq_none_iff {c : Cursor} :
    c.next? = none ↔ ∀ x ∈ c.rest, isBlank x = true := by
  rw [next?_eq_find?, Option.map_eq_none_iff, Rule.find?_token]
  cases hd : c.rest.dropWhile isBlank with
  | nil => simpa using List.dropWhile_eq_nil_iff.1 hd
  | cons x xs =>
      simp only [reduceCtorEq, false_iff]
      intro hblank
      rw [List.dropWhile_eq_nil_iff.2 hblank] at hd
      cases hd

end Cursor

/-! ## Places of a scan -/

namespace Cursor

/-- A place in `s`: the text before it, which has been counted, and the rest. -/
structure At (c : Cursor) (s before : List Char) : Prop where
  eq : s = before ++ c.rest
  chars_eq : c.chars = before.length
  bytes_eq : c.bytes = byteLength before

theorem at_ofText (text : String) : (ofText text).At text.toList [] :=
  ⟨rfl, rfl, rfl⟩

/-- A step leads from a place to a place. -/
theorem At.step {c d : Cursor} {s before gap : List Char} {t : Token} (h : c.At s before)
    (hstep : c.Step gap t d) : d.At s (before ++ gap ++ t.text.toList) where
  eq := by rw [h.eq, hstep.cut.eq, List.append_assoc, List.append_assoc]
  chars_eq := by
    rw [hstep.chars_eq, hstep.stop_eq, hstep.start_eq, h.chars_eq, List.length_append,
      List.length_append]
  bytes_eq := by
    rw [hstep.bytes_eq, hstep.byteStop_eq, hstep.byteStart_eq, h.bytes_eq,
      byteLength_append, byteLength_append]

end Cursor

/-! ## Tokenizations -/

namespace Token

/-- The token is the part of `s` between its offsets, in characters and in
bytes. -/
structure IsSpanOf (t : Token) (s : List Char) : Prop where
  stop_le : t.stop ≤ s.length
  text_eq : t.text.toList = s.extract t.start t.stop
  byteStart_eq : t.byteStart = byteLength (s.take t.start)
  byteStop_eq : t.byteStop = byteLength (s.take t.stop)

/-- The parts of `s` before, between and behind tokens, from `here` on. -/
def gaps (s : List Char) (here : Nat) : List Token → List (List Char)
  | [] => [s.drop here]
  | t :: ts => s.extract here t.start :: gaps s t.stop ts

/-- Gaps and tokens in a row, from `here` on. -/
def weave (s : List Char) (here : Nat) : List Token → List Char
  | [] => s.drop here
  | t :: ts => s.extract here t.start ++ (t.text.toList ++ weave s t.stop ts)

/-- A list of tokens that cuts up what `s` holds from `here` on. -/
structure Tokenizes (s : List Char) (here : Nat) (ts : List Token) : Prop where
  span : ∀ t ∈ ts, t.IsSpanOf s
  weave_eq : weave s here ts = s.drop here
  blank : ∀ gap ∈ gaps s here ts, ∀ c ∈ gap, isBlank c = true
  lexeme : ∀ t ∈ ts, Lexeme t.text.toList (s.drop t.stop)

theorem IsSpanOf.length_toList {t : Token} {s : List Char} (h : t.IsSpanOf s) :
    t.text.toList.length = t.stop - t.start := by
  have hstop := h.stop_le
  rw [h.text_eq]
  simp only [List.length_take, List.length_drop]
  omega

/-- A row of gaps and tokens is never too short; it is too long when a token
begins before the end of what precedes it. -/
theorem le_length_weave {s : List Char} (ts : List Token) (here : Nat)
    (hspan : ∀ t ∈ ts, t.IsSpanOf s) : s.length - here ≤ (weave s here ts).length := by
  induction ts generalizing here with
  | nil => simp [weave]
  | cons t ts ih =>
      have ht := hspan t (by simp)
      have hstop := ht.stop_le
      have hlen := ht.length_toList
      have hrest := ih t.stop fun u hu => hspan u (by simp [hu])
      simp only [weave, List.length_append, hlen, List.length_take, List.length_drop]
      omega

theorem extract_append_drop {s : List Char} {a b : Nat} (h : a ≤ b) :
    s.extract a b ++ s.drop b = s.drop a := by
  have hdrop : s.drop b = (s.drop a).drop (b - a) := by
    rw [List.drop_drop]
    congr 1
    omega
  rw [hdrop]
  exact List.take_append_drop _ _

theorem take_append_extract {s : List Char} {a b : Nat} (h : a ≤ b) :
    s.take a ++ s.extract a b = s.take b := by
  have hb : b = a + (b - a) := by omega
  conv => rhs; rw [hb, List.take_add]

/-- What is left behind the first token of a tokenization. -/
theorem Tokenizes.tail {s : List Char} {here : Nat} {t : Token} {ts : List Token}
    (h : Tokenizes s here (t :: ts)) (hhere : here ≤ s.length) :
    here ≤ t.start ∧ Tokenizes s t.stop ts := by
  have ht := h.span t (by simp)
  have hstop := ht.stop_le
  have hlen := ht.length_toList
  have hpos := (h.lexeme t (by simp)).length_pos
  have hlow := le_length_weave ts t.stop fun u hu => h.span u (by simp [hu])
  have hweave := h.weave_eq
  have hle : here ≤ t.start := by
    have hlength := congrArg List.length hweave
    simp only [weave, List.length_append, hlen, List.length_take, List.length_drop]
      at hlength
    omega
  refine ⟨hle, ⟨fun u hu => h.span u (by simp [hu]), ?_, fun g hg => h.blank g (by simp [gaps, hg]),
    fun u hu => h.lexeme u (by simp [hu])⟩⟩
  rw [weave, ht.text_eq, ← extract_append_drop hle, List.append_cancel_left_eq,
    ← extract_append_drop (show t.start ≤ t.stop by omega),
    List.append_cancel_left_eq] at hweave
  exact hweave

theorem extract_of_eq {s a b c : List Char} (h : s = a ++ (b ++ c)) :
    s.extract a.length (a.length + b.length) = b := by
  subst h
  simp

end Token

/-! ## The scan and its tokenization -/

namespace Cursor

open Token

theorem At.drop_eq {c : Cursor} {s before : List Char} (h : c.At s before) :
    s.drop c.chars = c.rest := by
  rw [h.eq, h.chars_eq, List.drop_left]

theorem At.take_eq {c : Cursor} {s before : List Char} (h : c.At s before) :
    s.take c.chars = before := by
  rw [h.eq, h.chars_eq, List.take_left]

theorem At.chars_le {c : Cursor} {s before : List Char} (h : c.At s before) :
    c.chars ≤ s.length := by
  rw [h.eq, h.chars_eq, List.length_append]
  omega

/-- The token that a step finds is a part of the text. -/
theorem At.isSpanOf {c d : Cursor} {s before gap : List Char} {t : Token} (h : c.At s before)
    (hstep : c.Step gap t d) : t.IsSpanOf s := by
  have hd := h.step hstep
  have hs : s = (before ++ gap) ++ (t.text.toList ++ d.rest) := by
    rw [h.eq, hstep.cut.eq, List.append_assoc]
  have hstart : t.start = (before ++ gap).length := by
    rw [hstep.start_eq, h.chars_eq, List.length_append]
  refine ⟨?_, ?_, ?_, ?_⟩
  · rw [← hstep.chars_eq]
    exact hd.chars_le
  · rw [hstep.stop_eq, hstart, extract_of_eq hs]
  · rw [hstep.byteStart_eq, hstart, hs, List.take_left, byteLength_append, h.bytes_eq]
  · rw [← hstep.bytes_eq, ← hstep.chars_eq, hd.take_eq, hd.bytes_eq]

theorem tokenizes_nil_iff {c : Cursor} {s before : List Char} (h : c.At s before) :
    Tokenizes s c.chars [] ↔ c.next? = none := by
  rw [next?_eq_none_iff, ← h.drop_eq]
  constructor
  · intro hts
    exact hts.blank _ (by simp [gaps])
  · intro hblank
    exact ⟨by simp, rfl, by simpa [gaps] using hblank, by simp⟩

/-- Where a tokenization of the rest begins, the scan finds its first token. -/
theorem Tokenizes.next?_eq {c : Cursor} {s before : List Char} (h : c.At s before)
    {t : Token} {ts : List Token} (hts : Tokenizes s c.chars (t :: ts)) :
    c.next? = some (t, ⟨s.drop t.stop, t.stop, t.byteStop⟩) := by
  have ht := hts.span t (by simp)
  have hlen := ht.length_toList
  have hpos := (hts.lexeme t (by simp)).length_pos
  have hstople := ht.stop_le
  obtain ⟨hle, -⟩ := hts.tail h.chars_le
  have hle' : t.start ≤ t.stop := by omega
  have hgap : (s.extract c.chars t.start).length = t.start - c.chars := by
    simp only [List.length_take, List.length_drop]
    omega
  refine next?_eq_some_iff.2 ⟨s.extract c.chars t.start, ?_, by omega, by omega, ?_, ?_,
    rfl, rfl⟩
  · refine ⟨?_, hts.blank _ (by simp [gaps]), hts.lexeme t (by simp)⟩
    rw [← h.drop_eq, ← extract_append_drop hle, ht.text_eq, extract_append_drop hle']
  · rw [h.bytes_eq, ← h.take_eq, ← byteLength_append, take_append_extract hle,
      ht.byteStart_eq]
  · rw [ht.byteStart_eq, ht.text_eq, ← byteLength_append, take_append_extract hle',
      ht.byteStop_eq]

theorem tokenizes_cons_iff {c : Cursor} {s before : List Char} (h : c.At s before)
    {t : Token} {ts : List Token} :
    Tokenizes s c.chars (t :: ts) ↔
      ∃ d, c.next? = some (t, d) ∧ Tokenizes s d.chars ts := by
  constructor
  · intro hts
    exact ⟨_, Tokenizes.next?_eq h hts, (hts.tail h.chars_le).2⟩
  · rintro ⟨d, hnext, hts⟩
    obtain ⟨gap, hstep⟩ := next?_eq_some_iff.1 hnext
    have hd := h.step hstep
    have hgap : s.extract c.chars t.start = gap := by
      rw [hstep.start_eq, h.chars_eq]
      exact extract_of_eq (by rw [h.eq, hstep.cut.eq])
    have hrest : s.drop t.stop = d.rest := by rw [← hstep.chars_eq, hd.drop_eq]
    rw [hstep.chars_eq] at hts
    refine ⟨?_, ?_, ?_, ?_⟩
    · intro u hu
      rcases List.mem_cons.1 hu with rfl | hu
      · exact h.isSpanOf hstep
      · exact hts.span u hu
    · rw [weave, hgap, hts.weave_eq, hrest, h.drop_eq, hstep.cut.eq]
    · intro g hg
      rcases List.mem_cons.1 hg with rfl | hg
      · rw [hgap]
        exact hstep.cut.blank
      · exact hts.blank g hg
    · intro u hu
      rcases List.mem_cons.1 hu with rfl | hu
      · rw [hrest]
        exact hstep.cut.lexeme
      · exact hts.lexeme u hu

theorem tokens_eq_nil_iff {c : Cursor} : c.tokens = [] ↔ c.next? = none := by
  cases h : c.next? with
  | none => simp [tokens_of_none h]
  | some p => simp [tokens_of_some h]

theorem tokens_eq_cons_iff {c : Cursor} {t : Token} {ts : List Token} :
    c.tokens = t :: ts ↔ ∃ d, c.next? = some (t, d) ∧ d.tokens = ts := by
  cases h : c.next? with
  | none => simp [tokens_of_none h]
  | some p =>
      obtain ⟨u, d⟩ := p
      rw [tokens_of_some h]
      constructor
      · intro hts
        obtain ⟨rfl, rfl⟩ := List.cons.inj hts
        exact ⟨d, rfl, rfl⟩
      · rintro ⟨d', hd', rfl⟩
        obtain ⟨rfl, rfl⟩ := Prod.mk.inj (Option.some.inj hd')
        rfl

/-- From any place that a scan can reach, the tokens found are the only
tokenization of the rest. -/
theorem tokenizes_iff {c : Cursor} {s before : List Char} (h : c.At s before)
    (ts : List Token) : Tokenizes s c.chars ts ↔ c.tokens = ts := by
  induction ts generalizing c before with
  | nil => rw [tokenizes_nil_iff h, tokens_eq_nil_iff]
  | cons t ts ih =>
      rw [tokenizes_cons_iff h, tokens_eq_cons_iff]
      constructor
      · rintro ⟨d, hnext, hts⟩
        obtain ⟨gap, hstep⟩ := next?_eq_some_iff.1 hnext
        exact ⟨d, hnext, (ih (h.step hstep)).1 hts⟩
      · rintro ⟨d, hnext, hts⟩
        obtain ⟨gap, hstep⟩ := next?_eq_some_iff.1 hnext
        exact ⟨d, hnext, (ih (h.step hstep)).2 hts⟩

end Cursor

/-! ## Whole texts -/

namespace Token

theorem cursor_eq_ok_iff {text : String} {c : Cursor} :
    cursor text = .ok c ↔ text.utf8ByteSize ≤ Limits.maxInputSize ∧ c = .ofText text := by
  unfold cursor
  by_cases h : Limits.maxInputSize < text.utf8ByteSize
  · rw [if_pos h]
    simp only [reduceCtorEq, false_iff, not_and]
    omega
  · rw [if_neg h]
    simp only [Except.ok.injEq]
    constructor
    · rintro rfl
      exact ⟨by omega, rfl⟩
    · rintro ⟨-, rfl⟩
      rfl

/-- A bounded scan of a text within the limit finds the first tokens of the full one. -/
theorem scan_eq_ok {text : String} (h : text.utf8ByteSize ≤ Limits.maxInputSize) (n : Nat) :
    scan n text = .ok ((Cursor.ofText text).tokens.take n).toArray := by
  have htake := Cursor.take_toList n (.ofText text) #[]
  rw [scan, cursor_eq_ok_iff.2 ⟨h, rfl⟩]
  simp only [Except.map, Except.ok.injEq]
  rw [← Array.toList_inj, htake]
  simp

/-- When all tokens of a text are given, and which. -/
theorem tokenize_eq_ok_iff {text : String} {found : Array Token} :
    tokenize text = .ok found ↔
      text.utf8ByteSize ≤ Limits.maxInputSize ∧
      (Cursor.ofText text).tokens.length ≤ Limits.maxTokenCount ∧
      found.toList = (Cursor.ofText text).tokens := by
  by_cases h : text.utf8ByteSize ≤ Limits.maxInputSize
  · rw [tokenize, scan_eq_ok h]
    simp only [Bind.bind, Except.bind, List.size_toArray, List.length_take]
    by_cases hlen : (Cursor.ofText text).tokens.length ≤ Limits.maxTokenCount
    · rw [if_neg (by omega), List.take_of_length_le (by omega)]
      simp only [Except.ok.injEq, h, hlen, true_and]
      constructor
      · rintro rfl
        rfl
      · intro hfound
        rw [← hfound, Array.toArray_toList]
    · rw [if_pos (by omega)]
      simp [hlen]
  · have hcursor : cursor text = .error (.inputTooLarge text.utf8ByteSize) :=
      if_pos (by omega)
    simp [tokenize, scan, hcursor, Except.map, Bind.bind, Except.bind, h]

/-- A text within the limit is scanned from match to match of the pattern of
tokens, and what the whole scan finds is the one and only tokenization of the
text. -/
theorem tokenizes_iff_of_le (text : String)
    (h : text.utf8ByteSize ≤ Limits.maxInputSize) :
    ∃ c, cursor text = .ok c ∧
      (∀ n, scan n text = .ok (c.tokens.take n).toArray) ∧
      (∀ d : Cursor, d.next? =
        (Rule.token.find? d.rest).map fun m => d.pass m.1 m.2.1 m.2.2) ∧
      ∀ ts, Tokenizes text.toList 0 ts ↔ c.tokens = ts := by
  refine ⟨.ofText text, cursor_eq_ok_iff.2 ⟨h, rfl⟩, scan_eq_ok h, Cursor.next?_eq_find?, ?_⟩
  intro ts
  exact Cursor.tokenizes_iff (Cursor.at_ofText text) ts

/-- Digits before and in a word, a letter that is not of ASCII right behind it,
and a gap that is not of ASCII either. -/
theorem tokenizes_iff_of_le_mixed :
    "9x9é\u00A0y".utf8ByteSize ≤ Limits.maxInputSize ∧
      ∃ c, cursor "9x9é\u00A0y" = .ok c ∧
        (∀ n, scan n "9x9é\u00A0y" = .ok (c.tokens.take n).toArray) ∧
        (∀ d : Cursor, d.next? =
          (Rule.token.find? d.rest).map fun m => d.pass m.1 m.2.1 m.2.2) ∧
        ∀ ts, Tokenizes "9x9é\u00A0y".toList 0 ts ↔ c.tokens = ts :=
  ⟨by decide, tokenizes_iff_of_le _ (by decide)⟩

end Token

end Glossary
