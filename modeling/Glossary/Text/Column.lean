/-!
# Columns

Texts of a fixed width. A text that is too long is left as it is; one that is too short gets
spaces behind it, before it, or on both sides, where an odd space goes behind.

## Main results

* `length_padded` — a padded text has the width, or its own length if that is larger.
-/

namespace Glossary.Text

/-- On which side a text stands in its column. -/
inductive Alignment where
  | left
  | right
  | centre
  deriving DecidableEq, Repr

/-- Spaces before and behind a text that is `missing` characters short. -/
def Alignment.margins (missing : Nat) : Alignment → Nat × Nat
  | .left => (0, missing)
  | .right => (missing, 0)
  | .centre => (missing / 2, missing - missing / 2)

/-- A text in a column of the given width. -/
def padded (a : Alignment) (width : Nat) (s : List Char) : List Char :=
  let (before, behind) := a.margins (width - s.length)
  List.replicate before ' ' ++ s ++ List.replicate behind ' '

theorem length_padded (a : Alignment) (width : Nat) (s : List Char) :
    (padded a width s).length = max width s.length := by
  cases a <;> simp [padded, Alignment.margins] <;> omega

/-- A text at the left of its column. -/
def column (width : Nat) (s : String) : String := String.ofList (padded .left width s.toList)

end Glossary.Text
