import Glossary.Unicode.Casing.Table

/-!
# Letter case

The small letters of capitals, and the characters that are one when case is left aside. Both are
given character by character; what a whole text looks like in small letters is another matter.

## Main results

* `small_of_ascii` — on ASCII characters this is core's `Char.toLower`.
* `mem_spellings` — what a character is folded to is one of its spellings.
-/

namespace Glossary.Unicode

namespace CapitalRun

/-- Whether a number stands in the run. -/
def holds (r : CapitalRun) (n : Int) : Bool :=
  r.first ≤ n && n ≤ r.last && (n - r.first) % r.step == 0

/-- The small letter of a capital of the run. -/
def small? (r : CapitalRun) (c : Char) : Option Char :=
  if r.holds c.toNat then some (Char.ofNat (c.toNat + r.shift).toNat) else none

/-- The capital of the run with a given small letter. -/
def capital? (r : CapitalRun) (c : Char) : Option Char :=
  if r.holds (c.toNat - r.shift) then some (Char.ofNat (c.toNat - r.shift).toNat) else none

end CapitalRun

/-- The small letter of a character, or the character itself if it has none. -/
def small (c : Char) : Char :=
  if c.toNat < 128 then c.toLower else (capitalRuns.findSome? (·.small? c)).getD c

theorem small_of_ascii {c : Char} (h : c.toNat < 128) : small c = c.toLower := by
  simp [small, h]

/-- What a character counts as when case is left aside. -/
def folded (c : Char) : Char := ((smallVariants.lookup c.toNat).map Char.ofNat).getD (small c)

/-- The capitals with a given small letter. -/
def capitals (c : Char) : List Char :=
  (if c.toNat < 128 then [c.toUpper] else []) ++ capitalRuns.filterMap (·.capital? c)

/-- The characters that count as the same one when case is left aside, the one they count as
first. -/
def spellings (c : Char) : List Char :=
  let one := folded c
  one :: capitals one ++ (smallVariants.filter (·.2 == one.toNat)).map (Char.ofNat ·.1)

theorem mem_spellings (c : Char) : folded c ∈ spellings c := by simp [spellings]

end Glossary.Unicode
