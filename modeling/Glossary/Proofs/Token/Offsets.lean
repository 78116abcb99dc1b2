import Glossary.Proofs.Token.Tokenization

/-!
# The two kinds of offsets of a token

A token tells where it stands both in characters and in bytes. Neither is looked
up: a scan carries two counters from token to token, and adds to them what the
gap and the token are long. So the two could drift apart, or a gap could be cut
out of the text between bytes that are no places between characters.

They do not. Wherever a scan has come, the text behind it has as many characters
and bytes as the counters say. One step keeps this, and from it everything said
about the next token follows.

## Main results

* `Cursor.Step.agrees` — a token that a step finds names one part of the text in
  both ways.
* `Cursor.Reaches.counted` — what is counted of the text, wherever a scan has come.
* `Cursor.offsets_agree` — both for every token of every text.
-/

namespace Glossary

open Text

namespace Token

/-- The offsets in characters and in bytes name the same part of a text, which is the text of
the token. -/
structure Agrees (t : Token) (text : String) : Prop where
  boundary_byteStart : String.Pos.Raw.IsValid text ⟨t.byteStart⟩
  boundary_byteStop : String.Pos.Raw.IsValid text ⟨t.byteStop⟩
  start_eq : charsBefore? text t.byteStart = some t.start
  stop_eq : charsBefore? text t.byteStop = some t.stop
  bytes_eq : slice? text t.byteStart t.byteStop = some t.text
  chars_eq : text.toList.extract t.start t.stop = t.text.toList
  ne_empty : t.text ≠ ""

end Token

namespace Cursor

/-- The scan that begins at `start` has found some tokens, and stands at a cursor. -/
inductive Reaches (start : Cursor) : List Token → Cursor → Prop where
  | start : Reaches start [] start
  | step {found : List Token} {c d : Cursor} {t : Token} (h : Reaches start found c)
      (hnext : c.next? = some (t, d)) : Reaches start (found ++ [t]) d

/-- The token between two bytes of a text, with its offsets in characters counted on from a
place before it: over the gap, and over the token. Nothing if the text is not cut between
characters. -/
def count? (c : Cursor) (text : String) (byteStart byteStop : Nat) : Option Token := do
  let gap ← slice? text c.bytes byteStart
  let run ← slice? text byteStart byteStop
  let start := c.chars + gap.toList.length
  some ⟨run, start, start + run.toList.length, byteStart, byteStop⟩

/-- The byte behind the last of some tokens. -/
def lastStop (found : List Token) : Nat := (found.getLast?.map (·.byteStop)).getD 0

variable {text : String} {found : List Token} {c d : Cursor} {t : Token}
  {before gap : List Char}

/-! ## One step -/

/-- The text around a token that a step finds. -/
theorem Step.toList_eq (h : c.Step gap t d) (hc : c.At text.toList before) :
    text.toList = (before ++ gap) ++ (t.text.toList ++ d.rest) := by
  rw [hc.eq, h.cut.eq, List.append_assoc]

/-- The bytes before a token that a step finds, and those of it. -/
theorem Step.byteStart_eq_byteLength (h : c.Step gap t d) (hc : c.At text.toList before) :
    t.byteStart = byteLength (before ++ gap) := by
  rw [h.byteStart_eq, hc.bytes_eq, byteLength_append]

/-- The offsets of a token that a step finds agree. -/
theorem Step.agrees (h : c.Step gap t d) (hc : c.At text.toList before) : t.Agrees text := by
  have hspan : t.IsSpanOf text.toList := hc.isSpanOf h
  have hbytes := h.byteStart_eq_byteLength hc
  have hslice : slice? text t.byteStart t.byteStop = some t.text := by
    rw [h.byteStop_eq, hbytes, slice?_of_toList_eq (h.toList_eq hc), String.ofList_toList]
  obtain ⟨hstart, hstop, -⟩ := isValid_of_slice? hslice
  have hchars : t.start = (before ++ gap).length := by
    rw [h.start_eq, hc.chars_eq, List.length_append]
  have hd : d.At text.toList (before ++ gap ++ t.text.toList) := hc.step h
  refine ⟨hstart, hstop, ?_, ?_, hslice, hspan.text_eq.symm, ?_⟩
  · rw [hbytes, hchars]
    exact charsBefore?_of_toList_eq (h.toList_eq hc)
  · rw [← h.bytes_eq, ← h.chars_eq, hd.bytes_eq, hd.chars_eq]
    exact charsBefore?_of_toList_eq hd.eq
  · intro hempty
    have hpos := h.cut.lexeme.length_pos
    rw [hempty] at hpos
    cases hpos

/-- The counters lead from the place of a step to the token that it finds. -/
theorem Step.count?_eq (h : c.Step gap t d) (hc : c.At text.toList before) :
    c.count? text t.byteStart t.byteStop = some t := by
  have hgap : slice? text c.bytes t.byteStart = some (String.ofList gap) := by
    have hsplit : text.toList = before ++ (gap ++ (t.text.toList ++ d.rest)) := by
      rw [hc.eq, h.cut.eq]
    rw [h.byteStart_eq, hc.bytes_eq]
    exact slice?_of_toList_eq hsplit
  rw [count?, hgap, (h.agrees hc).bytes_eq]
  simp only [Option.bind_eq_bind, Option.bind_some, String.toList_ofList, Option.some.injEq]
  rw [← h.start_eq, ← h.stop_eq]

/-! ## Every step -/

/-- What a scan keeps: it stands at a place of the text, which is the end of its last token,
and no token ends behind it. -/
structure Counted (text : String) (found : List Token) (c : Cursor) : Prop where
  place : ∃ before, c.At text.toList before
  bytes_eq : c.bytes = lastStop found
  byteStop_le : ∀ u ∈ found, u.byteStop ≤ c.bytes

theorem counted_start (text : String) : Counted text [] (ofText text) where
  place := ⟨[], at_ofText text⟩
  bytes_eq := rfl
  byteStop_le u hu := by cases hu

theorem Counted.step (h : Counted text found c) (hstep : c.Step gap t d) :
    Counted text (found ++ [t]) d where
  place := by
    obtain ⟨before, hc⟩ := h.place
    exact ⟨_, hc.step hstep⟩
  bytes_eq := by simp [lastStop, hstep.bytes_eq]
  byteStop_le := by
    intro u hu
    have hstart := hstep.byteStart_eq
    have hstop := hstep.byteStop_eq
    have hbytes := hstep.bytes_eq
    rcases List.mem_append.1 hu with hu | hu
    · have hle := h.byteStop_le u hu
      omega
    · rw [List.mem_singleton.1 hu]
      omega

/-- Wherever a scan has come, the text behind it is counted. -/
theorem Reaches.counted (h : (ofText text).Reaches found c) : Counted text found c := by
  induction h with
  | start => exact counted_start text
  | step h hnext ih =>
      obtain ⟨gap, hstep⟩ := next?_eq_some_iff.1 hnext
      exact ih.step hstep

/-- Wherever a scan has come in a text, the offsets of the token that it finds next agree: both
its bytes are places between characters, with as many characters before them as its other
offsets say, and the text of the token, which is not empty, stands between either. The scan
stands where the last token ends, which is not behind the next one; so the gap between them can
be cut out, and counting on over it leads to this token. -/
theorem offsets_agree (hreach : (ofText text).Reaches found c)
    (hnext : c.next? = some (t, d)) :
    t.Agrees text ∧ c.bytes = lastStop found ∧ (∀ u ∈ found, u.byteStop ≤ t.byteStart) ∧
      c.count? text t.byteStart t.byteStop = some t := by
  obtain ⟨gap, hstep⟩ := next?_eq_some_iff.1 hnext
  have hcounted := hreach.counted
  obtain ⟨before, hc⟩ := hcounted.place
  refine ⟨hstep.agrees hc, hcounted.bytes_eq, ?_, hstep.count?_eq hc⟩
  intro u hu
  have hle := hcounted.byteStop_le u hu
  have hstart := hstep.byteStart_eq
  omega

/-- A letter of two bytes right behind a word, which ends in front of it: the fourth token of a
text in which another such letter comes first. -/
theorem offsets_agree_accents :
    let c : Cursor := ⟨['é'], 7, 8⟩
    let t : Token := ⟨"é", 7, 8, 8, 10⟩
    let found : List Token := [⟨"é", 0, 1, 0, 2⟩, ⟨"=", 2, 3, 3, 4⟩, ⟨"caf", 4, 7, 5, 8⟩]
    (ofText "é = café").Reaches found c ∧ c.next? = some (t, ⟨[], 8, 10⟩) ∧
      t.Agrees "é = café" ∧ c.bytes = lastStop found ∧
      (∀ u ∈ found, u.byteStop ≤ t.byteStart) ∧ c.count? "é = café" 8 10 = some t := by
  have hletter : (ofText "é = café").Reaches [⟨"é", 0, 1, 0, 2⟩] ⟨" = café".toList, 1, 2⟩ :=
    .step .start (by decide)
  have hsign : (ofText "é = café").Reaches [⟨"é", 0, 1, 0, 2⟩, ⟨"=", 2, 3, 3, 4⟩]
      ⟨" café".toList, 3, 4⟩ := hletter.step (by decide)
  have hreach : (ofText "é = café").Reaches
      [⟨"é", 0, 1, 0, 2⟩, ⟨"=", 2, 3, 3, 4⟩, ⟨"caf", 4, 7, 5, 8⟩] ⟨['é'], 7, 8⟩ :=
    hsign.step (by decide)
  have hnext : (⟨['é'], 7, 8⟩ : Cursor).next? = some (⟨"é", 7, 8, 8, 10⟩, ⟨[], 8, 10⟩) := by
    decide
  exact ⟨hreach, hnext, offsets_agree hreach hnext⟩

end Cursor

end Glossary
