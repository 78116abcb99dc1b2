import Glossary.Analysis
import Glossary.Proofs.Source.Rows
import Glossary.Proofs.Token.Order

/-!
# Two ways to the token at an offset

The halving search over an analysis and the scan that stops early are both the
first match that covers the offset. The halving search is, because the stops of
the matches ascend, so that "stops by then" turns false once; the scan is,
because what starts behind the offset cannot cover it.

## Main results

* `Analysis.Ordered.at?_eq_some_iff` — the halving search of any analysis whose
  matches are in order.
* `Store.found_of_analyze` — the matches of an analysis are the tokens of the
  full scan, each explained.
* `Store.hover?_eq_at?` — both ways agree, with what they answer and when.
-/

namespace Glossary

open Text

/-! ## Analyses in order -/

namespace Match

theorem covers_iff {m : Match} {offset : Nat} :
    m.covers offset = true ↔ m.start ≤ offset ∧ offset < m.stop := by
  simp [covers]

end Match

namespace Analysis

/-- Matches that are not empty, each ending before the next one begins. -/
structure Ordered (a : Analysis) : Prop where
  pairwise : a.found.toList.Pairwise fun m n => m.stop ≤ n.start
  start_lt_stop : ∀ m ∈ a.found.toList, m.start < m.stop

/-- Of two matches in order, the first stops where the second starts or before. -/
theorem Ordered.stop_le_start {a : Analysis} (h : a.Ordered) {i j : Nat} {m n : Match}
    (hij : i < j) (hm : a.found[i]? = some m) (hn : a.found[j]? = some n) :
    m.stop ≤ n.start :=
  Search.rel_of_getElem? h.pairwise hij hm hn

/-- At most one match covers an offset. -/
theorem Ordered.index_unique {a : Analysis} (h : a.Ordered) {i j offset : Nat}
    {m n : Match} (hm : a.found[i]? = some m) (hn : a.found[j]? = some n)
    (hmc : m.covers offset = true) (hnc : n.covers offset = true) : i = j := by
  rw [Match.covers_iff] at hmc hnc
  rcases Nat.lt_trichotomy i j with hij | hij | hij
  · have := h.stop_le_start hij hm hn
    omega
  · exact hij
  · have := h.stop_le_start hij hn hm
    omega

/-! ## The halving search -/

/-- The matches that stop by an offset come before those that do not. -/
theorem Ordered.passFirst_stop {a : Analysis} (h : a.Ordered) (offset : Nat) :
    Search.PassFirst a.found (·.stop ≤ offset) := by
  refine h.pairwise.imp_of_mem ?_
  intro m n _ hn hle hstop
  have hpos := h.start_lt_stop n hn
  rw [decide_eq_true_eq] at hstop ⊢
  omega

/-- What the halving search finds is the only match that covers the offset. -/
theorem Ordered.at?_eq_some_iff {a : Analysis} (h : a.Ordered) {offset : Nat} {m : Match} :
    a.at? offset = some m ↔ ∃ i : Nat, a.found[i]? = some m ∧ m.covers offset = true := by
  let k := Search.partitionPoint (fun i => a.found[i]?.any (·.stop ≤ offset)) a.size
  have hk : ∀ (i : Nat) n, a.found[i]? = some n → (i < k ↔ n.stop ≤ offset) := by
    intro i n hn
    have hpass := Search.lt_partitionPoint_any_iff (h.passFirst_stop offset) hn
    rwa [decide_eq_true_eq] at hpass
  have hat : a.at? offset = a.found[k]?.filter (·.start ≤ offset) := rfl
  rw [hat, Option.filter_eq_some_iff, decide_eq_true_eq]
  constructor
  · rintro ⟨hm, hstart⟩
    have hstop := hk k m hm
    exact ⟨k, hm, Match.covers_iff.2 ⟨hstart, by omega⟩⟩
  · rintro ⟨i, hm, hcov⟩
    rw [Match.covers_iff] at hcov
    have hki : ¬ i < k := by
      rw [hk i m hm]
      omega
    -- a match between `k` and `i` would start behind the offset, and yet `m` covers it
    have hik : ¬ k < i := by
      intro hlt
      have hi : i < a.found.size := (Array.getElem?_eq_some_iff.1 hm).1
      have hn : a.found[k]? = some a.found[k] := Array.getElem?_eq_getElem (by omega)
      have hstop := hk k _ hn
      have hle := h.stop_le_start hlt hn hm
      omega
    obtain rfl : i = k := by omega
    exact ⟨hm, hcov.1⟩

/-- The halving search finds nothing when no match covers the offset. -/
theorem Ordered.at?_eq_none_iff {a : Analysis} (h : a.Ordered) {offset : Nat} :
    a.at? offset = none ↔ ∀ m ∈ a.found.toList, m.covers offset = false := by
  constructor
  · intro hnone m hm
    obtain ⟨i, hi⟩ := List.getElem?_of_mem hm
    rw [Array.getElem?_toList] at hi
    cases hcov : m.covers offset with
    | false => rfl
    | true =>
        rw [h.at?_eq_some_iff.2 ⟨i, hi, hcov⟩] at hnone
        cases hnone
  · intro hnone
    cases hat : a.at? offset with
    | none => rfl
    | some m =>
        obtain ⟨i, hi, hcov⟩ := h.at?_eq_some_iff.1 hat
        have hm : m ∈ a.found.toList := Array.mem_toList_iff.2 (Array.mem_of_getElem? hi)
        rw [hnone m hm] at hcov
        cases hcov

/-- The halving search is the first match that covers the offset. -/
theorem Ordered.at?_eq_find? {a : Analysis} (h : a.Ordered) (offset : Nat) :
    a.at? offset = a.found.toList.find? (·.covers offset) := by
  cases hfind : a.found.toList.find? (·.covers offset) with
  | none =>
      rw [h.at?_eq_none_iff]
      intro m hm
      exact Bool.eq_false_iff.2 (List.find?_eq_none.1 hfind m hm)
  | some m =>
      obtain ⟨i, hi⟩ := List.getElem?_of_mem (List.mem_of_find?_eq_some hfind)
      rw [Array.getElem?_toList] at hi
      have hcov : m.covers offset = true := by simpa using List.find?_some hfind
      exact h.at?_eq_some_iff.2 ⟨i, hi, hcov⟩

end Analysis

/-! ## Analyses of a text -/

namespace Store

/-- The matches of an analysis are the tokens of the full scan, each explained. -/
theorem found_of_analyze {s : Store} {text : String} {a : Analysis}
    (h : s.analyze text = .ok a) :
    a.found.toList = (Cursor.ofText text).tokens.map (Match.ofToken s) := by
  unfold analyze at h
  cases hfound : Token.tokenize text with
  | error e => simp [hfound, Except.map, Except.mapError] at h
  | ok found =>
      simp only [hfound, Except.map, Except.mapError, Except.ok.injEq] at h
      rw [← h, Array.toList_map, (Token.tokenize_eq_ok_iff.1 hfound).2.2]

/-- A text that is analyzed is small enough to be scanned. -/
theorem size_le_of_analyze {s : Store} {text : String} {a : Analysis}
    (h : s.analyze text = .ok a) : text.utf8ByteSize ≤ Limits.maxInputSize := by
  unfold analyze at h
  cases hfound : Token.tokenize text with
  | error e => simp [hfound, Except.map, Except.mapError] at h
  | ok found => exact (Token.tokenize_eq_ok_iff.1 hfound).1

theorem ordered_of_analyze {s : Store} {text : String} {a : Analysis}
    (h : s.analyze text = .ok a) : a.Ordered := by
  refine ⟨?_, ?_⟩
  · rw [found_of_analyze h, List.pairwise_map]
    exact Cursor.tokens_pairwise _
  · intro m hm
    rw [found_of_analyze h] at hm
    obtain ⟨t, ht, rfl⟩ := List.mem_map.1 hm
    exact (Cursor.chars_le_start t ht).2

/-- The halving search finds what explains the first token that covers the offset. -/
theorem at?_of_analyze {s : Store} {text : String} {a : Analysis}
    (h : s.analyze text = .ok a) (offset : Nat) :
    a.at? offset =
      ((Cursor.ofText text).tokens.find? (·.covers offset)).map (Match.ofToken s) := by
  rw [(ordered_of_analyze h).at?_eq_find?, found_of_analyze h, List.find?_map]
  rfl

/-- Hovering over a text that is small enough explains the first token that
covers the offset. -/
theorem hover?_eq_ok {text : String} (h : text.utf8ByteSize ≤ Limits.maxInputSize)
    (s : Store) (offset : Nat) :
    s.hover? text offset =
      .ok (((Cursor.ofText text).tokens.find? (·.covers offset)).map (Match.ofToken s)) := by
  rw [hover?, Token.at?, Token.cursor_eq_ok_iff.2 ⟨h, rfl⟩]
  simp only [Except.map, Except.mapError, Cursor.seek_eq_find?]

/-- The two searches give the same answer. -/
theorem hover?_eq_ok_at? {s : Store} {text : String} {a : Analysis}
    (h : s.analyze text = .ok a) (offset : Nat) :
    s.hover? text offset = .ok (a.at? offset) := by
  rw [hover?_eq_ok (size_le_of_analyze h), at?_of_analyze h]

/-- There is no match at an offset behind the text or at a blank. -/
theorem at?_eq_none_iff_blank {s : Store} {text : String} {a : Analysis}
    (h : s.analyze text = .ok a) (offset : Nat) :
    a.at? offset = none ↔
      text.toList.length ≤ offset ∨ ∃ c, text.toList[offset]? = some c ∧ isBlank c = true := by
  have hat : a.at? offset = none ↔
      ¬ ∃ t ∈ (Cursor.ofText text).tokens, t.covers offset = true := by
    rw [at?_of_analyze h, Option.map_eq_none_iff, List.find?_eq_none]
    simp
  rw [hat, Cursor.exists_covers_ofText_iff]
  rcases Nat.lt_or_ge offset text.toList.length with hlt | hge
  · rw [List.getElem?_eq_getElem hlt]
    simp only [Option.some.injEq, exists_eq_left', Bool.not_eq_false]
    constructor
    · exact .inr
    · rintro (hle | hblank)
      · omega
      · exact hblank
  · rw [List.getElem?_eq_none hge]
    simp [hge]

/-- Both ways to the token at an offset give the same answer: the only match
that covers the offset, and nothing exactly behind the text and at blanks. The
status at the offset shows what they found. -/
theorem hover?_eq_at? (s : Store) (text : String) (a : Analysis)
    (h : s.analyze text = .ok a) (offset : Nat) :
    (∀ m, a.at? offset = some m ↔ s.hover? text offset = .ok (some m)) ∧
    (a.at? offset = none ↔ s.hover? text offset = .ok none) ∧
    (∀ m, a.at? offset = some m ↔
      ∃ i : Nat, a.found[i]? = some m ∧ m.start ≤ offset ∧ offset < m.stop ∧
        ∀ (j : Nat) (n : Match),
          a.found[j]? = some n → n.start ≤ offset → offset < n.stop → j = i) ∧
    (a.at? offset = none ↔
      text.toList.length ≤ offset ∨ ∃ c, text.toList[offset]? = some c ∧ isBlank c = true) ∧
    (∀ m, a.at? offset = some m → a.statusAt offset = .atCursor m.text m.category) ∧
    (a.at? offset = none → a.statusAt offset = .total a.size) := by
  have ha := ordered_of_analyze h
  have hhover := hover?_eq_ok_at? h offset
  refine ⟨?_, ?_, ?_, at?_eq_none_iff_blank h offset, ?_, ?_⟩
  · intro m
    rw [hhover, Except.ok.injEq]
  · rw [hhover, Except.ok.injEq]
  · intro m
    rw [ha.at?_eq_some_iff]
    constructor
    · rintro ⟨i, hi, hcov⟩
      obtain ⟨hstart, hstop⟩ := Match.covers_iff.1 hcov
      refine ⟨i, hi, hstart, hstop, ?_⟩
      intro j n hj hnstart hnstop
      exact ha.index_unique hj hi (Match.covers_iff.2 ⟨hnstart, hnstop⟩) hcov
    · rintro ⟨i, hi, hstart, hstop, -⟩
      exact ⟨i, hi, Match.covers_iff.2 ⟨hstart, hstop⟩⟩
  · intro m hm
    simp [Analysis.statusAt, hm]
  · intro hnone
    simp [Analysis.statusAt, hnone, Analysis.status]

/-- The store without entries explains nothing. -/
theorem analyze_empty {text : String} {found : Array Token}
    (h : Token.tokenize text = .ok found) :
    empty.analyze text = .ok ⟨found.map fun t =>
      ⟨t.text, .identifier, unknownDescription, none, t.start, t.stop⟩⟩ := by
  have hfind : ∀ token, empty.find? token = none := by
    intro token
    exact Std.HashMap.getElem?_empty
  have hmatch : Match.ofToken empty = fun t =>
      ⟨t.text, .identifier, unknownDescription, none, t.start, t.stop⟩ := by
    funext t
    rw [Match.ofToken, classify, hfind]
  rw [analyze, h, hmatch]
  rfl

/-- The second character of a word behind a letter that is not of ASCII and a
gap that is not of ASCII either. -/
theorem hover?_eq_at?_mixed :
    empty.analyze "é\u00A0x9" = .ok ⟨#[
      ⟨"é", .identifier, unknownDescription, none, 0, 1⟩,
      ⟨"x9", .identifier, unknownDescription, none, 2, 4⟩]⟩ ∧
    empty.hover? "é\u00A0x9" 3 =
      .ok (some ⟨"x9", .identifier, unknownDescription, none, 2, 4⟩) ∧
    empty.hover? "é\u00A0x9" 4 = .ok none := by
  have hanalyze : empty.analyze "é\u00A0x9" = .ok ⟨#[
      ⟨"é", .identifier, unknownDescription, none, 0, 1⟩,
      ⟨"x9", .identifier, unknownDescription, none, 2, 4⟩]⟩ := by
    have htokens : Token.tokenize "é\u00A0x9" =
        .ok #[⟨"é", 0, 1, 0, 2⟩, ⟨"x9", 2, 4, 4, 6⟩] := by decide +kernel
    rw [analyze_empty htokens]
    simp
  refine ⟨hanalyze, ?_, ?_⟩
  · exact ((hover?_eq_at? empty _ _ hanalyze 3).1 _).1 (by decide +kernel)
  · exact (hover?_eq_at? empty _ _ hanalyze 4).2.1.1 (by decide +kernel)

end Store

end Glossary
