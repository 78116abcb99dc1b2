import Glossary.Unicode.Property

/-!
# Lower case

The small-letter form of a text, after the default rules of Unicode. Two rules go beyond one
letter for one letter: the dotted capital I becomes a small i and a combining dot, and a capital
sigma becomes the final form when it ends a word.

## Main results

* `lowercase_ascii` — on ASCII text this is core's `Char.toLower`, letter by letter.
-/

namespace Glossary.Text

open Unicode (CharSet)

namespace Lowercase

/-- Whether the nearest character that is not passed over has a case. -/
def meetsCased : List Char → Bool
  | [] => false
  | c :: cs => if CharSet.caseIgnorable.contains c then meetsCased cs else CharSet.cased.contains c

/-- The small form of a character, without looking around it. -/
def small (c : Char) : List Char :=
  if c = '\u0130' then ['i', '\u0307'] else [Unicode.small c]

/-- Appends the small form of a text; `before` is the text in front of it, last character first.
A capital sigma takes its final form behind a cased character and before none. -/
def append (before : List Char) : List Char → Array Char → Array Char
  | [], out => out
  | c :: cs, out =>
      let form :=
        if c = '\u03A3' then
          if meetsCased before && !meetsCased cs then ['\u03C2'] else ['\u03C3']
        else small c
      append (c :: before) cs (out ++ form)

end Lowercase

/-- The small-letter form of a text. -/
def lowercase (s : List Char) : List Char := (Lowercase.append [] s #[]).toList

theorem Lowercase.small_of_ascii {c : Char} (h : c.toNat < 128) : small c = [c.toLower] := by
  have hc : c ≠ '\u0130' := by
    rintro rfl
    exact absurd h (by decide)
  simp [small, hc, Unicode.small_of_ascii h]

theorem Lowercase.append_ascii (before s : List Char) (out : Array Char)
    (h : ∀ c ∈ s, c.toNat < 128) :
    (append before s out).toList = out.toList ++ s.map Char.toLower := by
  induction s generalizing before out with
  | nil => simp [append]
  | cons c cs ih =>
      have hc : c.toNat < 128 := h c (by simp)
      have hs : c ≠ '\u03A3' := by
        rintro rfl
        exact absurd hc (by decide)
      rw [append, ih _ _ fun d hd => h d (by simp [hd])]
      simp [hs, small_of_ascii hc]

theorem lowercase_ascii (s : List Char) (h : ∀ c ∈ s, c.toNat < 128) :
    lowercase s = s.map Char.toLower := by
  simpa [lowercase] using Lowercase.append_ascii [] s #[] h

end Glossary.Text
