import Glossary.Pattern.Form

/-!
# The size of a pattern

How much room a pattern takes when it is laid out with every repetition written out. Patterns that
would take too much are refused. The sizes of sets are estimates.

## Main results

* `size_times_exactly` — what is repeated `n` times takes `n` times the room.
-/

namespace Glossary

namespace Pattern

open Unicode (CharSet)

/-- The most bytes that a pattern may take. -/
def sizeLimit : Nat := 10485760

/-- The bytes that a step takes. -/
def stepSize : Nat := 32

/-- The bytes that a choice takes besides what is chosen from. -/
def choiceSize : Nat := 40

/-- The bytes that a set takes, range by range. A set that goes on to the last character has ranges
for all lengths of characters. -/
def rangesSize (s : CharSet) : Nat :=
  if s.isAscii then 2 * stepSize + 8 * s.breadth
  else 2 * stepSize * (s.breadth + 1) +
    (if s.contains (Char.ofNat 0x10FFFF) then 25 * stepSize else 0)

/-- The bytes that a set takes. A set of one character is laid out byte by byte. -/
def setSize (s : CharSet) : Nat :=
  match s with
  | .ranges ⟨#[(first, last)]⟩ =>
      if first = last then stepSize * (Char.ofNat first).utf8Size else rangesSize s
  | _ => rangesSize s

namespace Form

/-- Whether the form stands for places only. -/
def isEmpty : Form → Bool
  | .empty | .look _ => true
  | .chars _ => false
  | .seq a b | .either a b => a.isEmpty && b.isEmpty
  | .times f _ most? => most? == some 0 || f.isEmpty
  | .remember f => f.isEmpty

/-- The bytes that a form takes. Places need not be repeated. -/
def size : Form → Nat
  | .empty => 0
  | .chars s => setSize s
  | .look _ => stepSize
  | .seq a b => a.size + b.size
  | .either a b => a.size + b.size + choiceSize
  | .times f least most? =>
      if f.isEmpty then f.size
      else
        match most? with
        | none => max 1 least * f.size + choiceSize
        | some most => most * f.size + (most - least) * choiceSize
  | .remember f => f.size + 2 * stepSize

theorem size_times_exactly {f : Form} (h : f.isEmpty = false) (n : Nat) :
    (times f n (some n)).size = n * f.size := by
  simp [size, h]

end Form

end Pattern

end Glossary
