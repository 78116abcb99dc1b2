import Glossary.Html

/-!
# Reading an escaped text back

An escaped character is the character itself or an entity, and an entity is the
only thing in an escaped text that begins with an ampersand. So a text is read
back from its escaped form by taking entities from the left, also where the text
held something that looks like an entity itself. Escaping loses nothing.

Texts without markup, in which every ampersand begins an entity, are all that
escaping gives. Such a text begins with an escaped character, and what is left
behind it is such a text again.

## Main results

* `unescapeChars_escapeChars` — an escaped text is read back.
* `escape_injective` — different texts are escaped differently.
* `escaped_iff` — which texts are escaped texts.
* `escape_unescapes` — what an escaped text holds, and what it is read back as.
-/

namespace Glossary.Html

/-- A text with its entities replaced by the characters they stand for, from the
left on. -/
def unescapeChars : List Char → List Char
  | '&' :: 'a' :: 'm' :: 'p' :: ';' :: rest => '&' :: unescapeChars rest
  | '&' :: 'l' :: 't' :: ';' :: rest => '<' :: unescapeChars rest
  | '&' :: 'g' :: 't' :: ';' :: rest => '>' :: unescapeChars rest
  | '&' :: 'q' :: 'u' :: 'o' :: 't' :: ';' :: rest => '"' :: unescapeChars rest
  | '&' :: '#' :: '3' :: '9' :: ';' :: rest => '\'' :: unescapeChars rest
  | c :: rest => c :: unescapeChars rest
  | [] => []

theorem unescapeChars_cons {c : Char} (h : c ≠ '&') (rest : List Char) :
    unescapeChars (c :: rest) = c :: unescapeChars rest := by
  conv => lhs; unfold unescapeChars
  split <;> simp_all

/-- One escaped character is read back, whatever follows it. -/
theorem unescapeChars_escapeChar (c : Char) (rest : List Char) :
    unescapeChars (escapeChar c ++ rest) = c :: unescapeChars rest := by
  unfold escapeChar
  split
  · simp [unescapeChars]
  · simp [unescapeChars]
  · simp [unescapeChars]
  · simp [unescapeChars]
  · simp [unescapeChars]
  · next hamp _ _ _ _ =>
      rw [List.singleton_append]
      exact unescapeChars_cons hamp rest

/-- An escaped text is read back. -/
theorem unescapeChars_escapeChars (s : List Char) : unescapeChars (escapeChars s) = s := by
  induction s with
  | nil => rfl
  | cons c s ih =>
      rw [escapeChars, List.flatMap_cons, unescapeChars_escapeChar]
      rw [escapeChars] at ih
      rw [ih]

/-- Different texts are escaped differently. -/
theorem escape_injective {s t : String} (h : escape s = escape t) : s = t := by
  have hchars : escapeChars s.toList = escapeChars t.toList := String.ofList_injective h
  have hread := congrArg unescapeChars hchars
  rw [unescapeChars_escapeChars, unescapeChars_escapeChars] at hread
  exact String.toList_inj.1 hread

/-- An escaped text neither begins a tag nor ends one. -/
theorem not_mem_escape (s : String) : '<' ∉ (escape s).toList ∧ '>' ∉ (escape s).toList := by
  rw [escape, String.toList_ofList]
  refine ⟨?_, ?_⟩
  · intro hmem
    exact absurd (noMarkup_escapeChars hmem) (by decide)
  · intro hmem
    exact absurd (noMarkup_escapeChars hmem) (by decide)

/-! ## Escaped texts -/

/-- What stands in a page for the characters that cannot stand there themselves. -/
def entities : List (List Char) :=
  ["&amp;".toList, "&lt;".toList, "&gt;".toList, "&quot;".toList, "&#39;".toList]

/-- No character of the text is markup, and every ampersand begins an entity. -/
structure Escaped (s : List Char) : Prop where
  noMarkup : ∀ c ∈ s, isMarkup c = false
  entity : ∀ rest, '&' :: rest <:+ s → ∃ e ∈ entities, e <+: '&' :: rest

theorem Escaped.of_suffix {s t : List Char} (h : Escaped s) (ht : t <:+ s) : Escaped t where
  noMarkup c hc := h.noMarkup c (ht.mem hc)
  entity rest hrest := h.entity rest (hrest.trans ht)

/-- Every entity stands for a character. -/
theorem exists_escapeChar_of_mem {e : List Char} (h : e ∈ entities) :
    ∃ c, escapeChar c = e := by
  simp only [entities, List.mem_cons, List.not_mem_nil, or_false] at h
  rcases h with rfl | rfl | rfl | rfl | rfl
  · exact ⟨'&', rfl⟩
  · exact ⟨'<', rfl⟩
  · exact ⟨'>', rfl⟩
  · exact ⟨'"', rfl⟩
  · exact ⟨'\'', rfl⟩

/-- A character is escaped as an entity, in which only the first character is an ampersand, or
as itself if it is neither an ampersand nor markup. -/
theorem escapeChar_cases (c : Char) :
    (∃ name, escapeChar c = '&' :: name ∧ escapeChar c ∈ entities ∧ '&' ∉ name) ∨
      (escapeChar c = [c] ∧ c ≠ '&') := by
  unfold escapeChar
  split
  case h_6 hamp hlt hgt hquot happ => exact .inr ⟨rfl, hamp⟩
  all_goals exact .inl ⟨_, rfl, by decide, by decide⟩

theorem escapeChar_eq_self {c : Char} (hamp : c ≠ '&') (h : isMarkup c = false) :
    escapeChar c = [c] := by
  simp only [isMarkup, Bool.or_eq_false_iff, beq_eq_false_iff_ne] at h
  unfold escapeChar
  split <;> simp_all

/-- The end of a list that begins with an item which is not in its first part. -/
theorem suffix_of_not_mem {α : Type} {a : α} {s t rest : List α} (ha : a ∉ s)
    (h : a :: rest <:+ s ++ t) : a :: rest <:+ t := by
  induction s with
  | nil => exact h
  | cons b s ih =>
      rw [List.cons_append, List.suffix_cons_iff] at h
      rcases h with heq | h
      · exact absurd (List.cons.inj heq).1 (List.ne_of_not_mem_cons ha)
      · exact ih (List.not_mem_of_not_mem_cons ha) h

/-- What escaping gives is escaped. -/
theorem escaped_escapeChars (s : List Char) : Escaped (escapeChars s) := by
  refine ⟨fun c => noMarkup_escapeChars, ?_⟩
  induction s with
  | nil =>
      intro rest hrest
      cases List.suffix_nil.1 hrest
  | cons c s ih =>
      intro rest hrest
      rw [escapeChars, List.flatMap_cons] at hrest
      rcases escapeChar_cases c with ⟨name, hname, hmem, hnot⟩ | ⟨hself, hne⟩
      · rw [hname, List.cons_append, List.suffix_cons_iff] at hrest
        rcases hrest with heq | hrest
        · refine ⟨_, hmem, ?_⟩
          rw [heq, hname]
          exact List.prefix_append _ _
        · exact ih rest (suffix_of_not_mem hnot hrest)
      · rw [hself] at hrest
        exact ih rest (suffix_of_not_mem (by simpa using hne.symm) hrest)

/-- An escaped text begins with an escaped character. -/
theorem Escaped.exists_append {c : Char} {s : List Char} (h : Escaped (c :: s)) :
    ∃ d rest, c :: s = escapeChar d ++ rest := by
  by_cases hc : c = '&'
  · subst hc
    obtain ⟨e, he, rest, hrest⟩ := h.entity s (List.suffix_refl _)
    obtain ⟨d, hd⟩ := exists_escapeChar_of_mem he
    exact ⟨d, rest, by rw [hd, hrest]⟩
  · exact ⟨c, s, by rw [escapeChar_eq_self hc (h.noMarkup c (by simp))]; rfl⟩

theorem escapeChar_ne_nil (c : Char) : escapeChar c ≠ [] := by
  rcases escapeChar_cases c with ⟨name, hname, -, -⟩ | ⟨hself, -⟩
  · simp [hname]
  · simp [hself]

/-- Every escaped text is what escaping gives for some text. -/
theorem Escaped.exists_escapeChars {s : List Char} (h : Escaped s) :
    ∃ t, escapeChars t = s := by
  cases hs : s with
  | nil => exact ⟨[], rfl⟩
  | cons c cs =>
      rw [hs] at h
      obtain ⟨d, rest, heq⟩ := h.exists_append
      have hlength : rest.length < s.length := by
        have hpos := List.length_pos_iff.2 (escapeChar_ne_nil d)
        rw [hs, heq, List.length_append]
        omega
      have hrest : Escaped rest := h.of_suffix (heq ▸ List.suffix_append _ _)
      obtain ⟨t, ht⟩ := hrest.exists_escapeChars
      refine ⟨d :: t, ?_⟩
      rw [heq, ← ht]
      rfl
termination_by s.length

/-! ## Escaping and reading back -/

/-- A text with its entities read back. -/
def unescape (s : String) : String := String.ofList (unescapeChars s.toList)

theorem unescape_escape (s : String) : unescape (escape s) = s := by
  rw [unescape, escape, String.toList_ofList, unescapeChars_escapeChars, String.ofList_toList]

/-- Escaped texts are those that escaping leads back to. -/
theorem escaped_iff {s : String} : Escaped s.toList ↔ escape (unescape s) = s := by
  constructor
  · intro h
    obtain ⟨t, ht⟩ := h.exists_escapeChars
    have hs : s = escape (String.ofList t) := by
      rw [escape, String.toList_ofList, ht, String.ofList_toList]
    rw [hs, unescape_escape]
  · intro h
    rw [← h, escape, String.toList_ofList]
    exact escaped_escapeChars _

/-- An escaped text has no markup, and its ampersands begin entities. With the entities replaced
from the left on it is the text again, so different texts are escaped differently; and of all
texts the escaped ones are those that escaping gives back after this. -/
theorem escape_unescapes (text : String) :
    Escaped (escape text).toList ∧ unescape (escape text) = text ∧
      (∀ other, escape other = escape text ↔ other = text) ∧
      (Escaped text.toList ↔ escape (unescape text) = text) := by
  have hescaped : Escaped (escape text).toList := by
    rw [escape, String.toList_ofList]
    exact escaped_escapeChars text.toList
  refine ⟨hescaped, unescape_escape text, ?_, escaped_iff⟩
  intro other
  constructor
  · exact escape_injective
  · rintro rfl
    rfl

/-- An entity in a text is not taken for the character it stands for. -/
example : escape "&lt;" = "&amp;lt;" ∧ unescape "&amp;lt;" = "&lt;" := by decide

end Glossary.Html
