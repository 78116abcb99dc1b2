import Glossary.Source.Search
import Glossary.Text.Digit

/-!
# Ranges of characters

Sets of characters as ranges of their numbers, in ascending order and apart from each other. A
set is written with hexadecimal digits, `30-39 41-46 5f`, and a character is found in it by
halving.

## Main results

* `exists_range_of_contains` — a character of the set lies in one of its ranges.
-/

namespace Glossary.Unicode

/-- Ranges of character numbers, ends included. -/
structure Ranges where
  ends : Array (Nat × Nat)
  deriving DecidableEq, Repr

namespace Ranges

/-- One range: two numbers with a hyphen between them, or the only number in it. -/
def readRange (s : List Char) : Nat × Nat :=
  match s.splitOn '-' with
  | [first, last] => (Text.ofDigits 16 first, Text.ofDigits 16 last)
  | _ => (Text.ofDigits 16 s, Text.ofDigits 16 s)

/-- The ranges that lines of text write, with spaces between them. -/
def ofText (lines : List String) : Ranges :=
  ⟨(lines.flatMap fun line => (line.toList.splitOn ' ').map readRange).toArray⟩

/-- Whether a character lies in the last range that does not start behind it. -/
def contains (r : Ranges) (c : Char) : Bool :=
  let index := Search.partitionPoint (fun i => r.ends[i]?.any (·.1 ≤ c.toNat)) r.ends.size
  r.ends[index - 1]?.any fun e => e.1 ≤ c.toNat && c.toNat ≤ e.2

theorem exists_range_of_contains {r : Ranges} {c : Char} (h : r.contains c = true) :
    ∃ e ∈ r.ends, e.1 ≤ c.toNat ∧ c.toNat ≤ e.2 := by
  unfold contains at h
  simp only [Option.any_eq_true, Bool.and_eq_true, decide_eq_true_eq] at h
  obtain ⟨e, he, h1, h2⟩ := h
  exact ⟨e, Array.mem_of_getElem? he, h1, h2⟩

end Ranges

end Glossary.Unicode
