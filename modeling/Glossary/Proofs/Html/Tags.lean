import Glossary.Proofs.Html.Escape
import Glossary.Proofs.Text.Lines

/-!
# Tags and the texts between them

A tag runs from a `<` to the next `>`. A text that is a row of pieces, each a tag
and what stands behind it, has exactly the tags of its pieces, as long as no tag
holds a `>` and no text behind one holds a `<`. The pieces are then found again in
the characters of the row: a tag ends at the first `>`, and a text at the first
`<` or at the end.

## Main results

* `tags_flatMap_chars` — the tags of a row of pieces.
* `flatMap_chars_injective` — the pieces are found again.
-/

namespace Glossary.Html

open Text

/-! ## Tags -/

/-- The tags of a text, in order. -/
def tags : List Char → List (List Char)
  | [] => []
  | c :: cs =>
      if c = '<' then
        match _h : cs.dropWhile (· ≠ '>') with
        | [] => []
        | _ :: rest => ('<' :: (cs.takeWhile (· ≠ '>') ++ ['>'])) :: tags rest
      else tags cs
termination_by s => s.length
decreasing_by
  · have hle := (List.dropWhile_suffix (l := cs) (· ≠ '>')).length_le
    rw [_h] at hle
    simp only [List.length_cons] at hle ⊢
    omega
  · simp

@[simp] theorem tags_nil : tags [] = [] := by
  rw [tags]

/-- Outside a tag, characters are passed over. -/
theorem tags_append_of_not_mem {s : List Char} (h : '<' ∉ s) (rest : List Char) :
    tags (s ++ rest) = tags rest := by
  induction s with
  | nil => rfl
  | cons c s ih =>
      have hc : c ≠ '<' := fun heq => h (by simp [heq])
      have hs : '<' ∉ s := fun hmem => h (by simp [hmem])
      rw [List.cons_append, tags, if_neg hc, ih hs]

/-- A tag ends at the first `>`. -/
theorem tags_tag_append {s : List Char} (h : '>' ∉ s) (rest : List Char) :
    tags ('<' :: (s ++ '>' :: rest)) = ('<' :: (s ++ ['>'])) :: tags rest := by
  have hne : ∀ c ∈ s, (decide (c ≠ '>')) = true := fun c hc =>
    decide_eq_true (ne_of_mem_of_not_mem hc h)
  have hdrop : (s ++ '>' :: rest).dropWhile (· ≠ '>') = '>' :: rest := by
    rw [List.dropWhile_append_of_pos hne]
    simp
  have htake : (s ++ '>' :: rest).takeWhile (· ≠ '>') = s := by
    rw [List.takeWhile_append_of_pos hne]
    simp
  rw [tags, if_pos rfl]
  split
  · next hnil =>
      rw [hdrop] at hnil
      cases hnil
  · next c rest' hcons =>
      rw [hdrop] at hcons
      obtain ⟨-, rfl⟩ := List.cons.inj hcons
      rw [htake]

/-! ## Pieces -/

/-- A tag, without its brackets, and the text behind it. -/
@[ext] structure Piece where
  tag : String
  text : String
  deriving DecidableEq, Repr

namespace Piece

/-- The tag as it stands in a page. -/
def bracketed (p : Piece) : List Char := '<' :: (p.tag.toList ++ ['>'])

/-- The piece as it stands in a page. -/
def chars (p : Piece) : List Char := '<' :: (p.tag.toList ++ '>' :: p.text.toList)

/-- The tag does not end early, and no other one begins in the text. -/
structure Plain (p : Piece) : Prop where
  tag_plain : '>' ∉ p.tag.toList
  text_plain : '<' ∉ p.text.toList

theorem Plain.ne_of_mem_tag {p : Piece} (h : p.Plain) :
    ∀ c ∈ p.tag.toList, decide (c ≠ '>') = true := fun _ hc =>
  decide_eq_true (ne_of_mem_of_not_mem hc h.tag_plain)

theorem Plain.ne_of_mem_text {p : Piece} (h : p.Plain) :
    ∀ c ∈ p.text.toList, decide (c ≠ '<') = true := fun _ hc =>
  decide_eq_true (ne_of_mem_of_not_mem hc h.text_plain)

theorem chars_append (p : Piece) (rest : List Char) :
    p.chars ++ rest = '<' :: (p.tag.toList ++ '>' :: (p.text.toList ++ rest)) := by
  simp [chars]

end Piece

/-- The tags of a row of pieces are those of the pieces. -/
theorem tags_flatMap_chars {ps : List Piece} (h : ∀ p ∈ ps, p.Plain) :
    tags (ps.flatMap Piece.chars) = ps.map Piece.bracketed := by
  induction ps with
  | nil => simp
  | cons p ps ih =>
      have hp : p.Plain := h p (by simp)
      have hps : ∀ q ∈ ps, q.Plain := fun q hq => h q (by simp [hq])
      rw [List.flatMap_cons, Piece.chars_append, tags_tag_append hp.tag_plain,
        tags_append_of_not_mem hp.text_plain, ih hps]
      rfl

/-- A row of pieces begins with a tag. -/
theorem head?_flatMap_chars {ps : List Piece} {c : Char}
    (h : (ps.flatMap Piece.chars).head? = some c) : decide (c ≠ '<') = false := by
  cases ps with
  | nil => cases h
  | cons p ps =>
      rw [List.flatMap_cons, Piece.chars_append, List.head?_cons, Option.some.injEq] at h
      simp [← h]

/-- A row of pieces is found again in its characters. -/
theorem flatMap_chars_injective {ps qs : List Piece} (hps : ∀ p ∈ ps, p.Plain)
    (hqs : ∀ q ∈ qs, q.Plain) (h : ps.flatMap Piece.chars = qs.flatMap Piece.chars) :
    ps = qs := by
  induction ps generalizing qs with
  | nil =>
      cases qs with
      | nil => rfl
      | cons q qs => cases h
  | cons p ps ih =>
      cases qs with
      | nil => cases h
      | cons q qs =>
          have hp : p.Plain := hps p (by simp)
          have hq : q.Plain := hqs q (by simp)
          rw [List.flatMap_cons, List.flatMap_cons, Piece.chars_append, Piece.chars_append,
            List.cons.injEq] at h
          obtain ⟨htag, hrest⟩ := append_eq_append_of_stop hp.ne_of_mem_tag hq.ne_of_mem_tag
            (by simp) (by simp) h.2
          obtain ⟨htext, hmore⟩ := append_eq_append_of_stop hp.ne_of_mem_text
            hq.ne_of_mem_text (fun _ => head?_flatMap_chars) (fun _ => head?_flatMap_chars)
            (List.cons.inj hrest).2
          have hfirst : p = q :=
            Piece.ext (String.toList_inj.1 htag) (String.toList_inj.1 htext)
          have hothers : ps = qs :=
            ih (fun r hr => hps r (by simp [hr])) (fun r hr => hqs r (by simp [hr])) hmore
          rw [hfirst, hothers]

end Glossary.Html
