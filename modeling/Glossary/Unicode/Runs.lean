import Glossary.Source.Search
import Glossary.Text.Digit

/-!
# Runs of characters

Tables that give every character a label, as runs of characters with one label. A run is written
as its label, which has a fixed number of letters, and the number of its characters, if there is
more than one. A character is found by halving.

## Main results

* `size_readRuns_le` — every run that is read has its own place in the text of the runs.
-/

namespace Glossary.Unicode

/-- Appends the runs that a text writes, each with the number of its first character. A label has
one letter more than `more`. -/
def readRuns (more start : Nat) (found : Array (Nat × String)) : List Char → Array (Nat × String)
  | [] => found
  | c :: cs =>
      let label := String.ofList (c :: cs.take more)
      let length := (Text.decimal? ((cs.drop more).takeWhile Char.isDigit)).getD 1
      readRuns more (start + length) (found.push (start, label))
        ((cs.drop more).dropWhile Char.isDigit)
termination_by s => s.length
decreasing_by
  have h1 := (List.dropWhile_suffix Char.isDigit (l := cs.drop more)).length_le
  have h2 := (List.drop_suffix more cs).length_le
  simp only [List.length_cons]
  omega

theorem size_readRuns_le (more start : Nat) (found : Array (Nat × String)) (s : List Char) :
    (readRuns more start found s).size ≤ found.size + s.length := by
  fun_induction readRuns more start found s with
  | case1 => simp
  | case2 start found c cs label length ih =>
      have h1 := (List.dropWhile_suffix Char.isDigit (l := cs.drop more)).length_le
      have h2 := (List.drop_suffix more cs).length_le
      rw [Array.size_push] at ih
      simp only [List.length_cons]
      omega

/-- The starts of runs with their labels, in ascending order. -/
structure Runs where
  starts : Array (Nat × String)

namespace Runs

/-- The runs that lines of text write, with labels of the given width. -/
def ofText (width : Nat) (lines : List String) : Runs :=
  ⟨readRuns (width - 1) 0 #[] (lines.flatMap String.toList)⟩

/-- The label of a character: that of the last run that does not start behind it. -/
def label (r : Runs) (c : Char) : String :=
  let index := Search.partitionPoint (fun i => r.starts[i]?.any (·.1 ≤ c.toNat)) r.starts.size
  (r.starts[index - 1]?.map (·.2)).getD ""

/-- How many times labels that pass a test follow on others. -/
def breadth (r : Runs) (test : String → Bool) : Nat :=
  (r.starts.foldl (fun (n, before) s =>
    (if test s.2 && !before then n + 1 else n, test s.2)) (0, false)).1

end Runs

end Glossary.Unicode
