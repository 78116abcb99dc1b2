import Glossary.Unicode.Property

/-!
# What a pattern finds

A pattern in its plain form, and the places in a text that it can lead to. The places of a text
are numbered from the one before its first character to the one behind its last, and a set of
places is kept as the bits of a number. A form takes sets of places to sets of places, so all
ways through a pattern are followed at once.

## Main results

* `reach_seq`, `reach_either` — parts in a row, and parts to choose from.
* `reach_zero` — from no place nothing is reached.
* `settle_eq_repeat` — a repetition that stops when nothing changes any more is that repetition.
-/

namespace Glossary.Pattern

open Unicode (CharSet)

/-- What a place has to be like. -/
inductive Look where
  | textStart
  | textStop
  | lineStart
  | lineStop
  /-- As for lines that a carriage return may end, too. -/
  | returnStart
  | returnStop
  /-- A word begins or ends. -/
  | boundary (words : CharSet)
  | inside (words : CharSet)
  | wordStart (words : CharSet)
  | wordStop (words : CharSet)
  /-- No word before the place. -/
  | noneBefore (words : CharSet)
  /-- No word behind the place. -/
  | noneBehind (words : CharSet)
  deriving DecidableEq, Repr

/-- The plain form of a pattern. -/
inductive Form where
  | empty
  | chars (s : CharSet)
  | look (l : Look)
  | seq (a b : Form)
  | either (a b : Form)
  | times (f : Form) (least : Nat) (most? : Option Nat)
  /-- A group whose text is remembered. -/
  | remember (f : Form)
  deriving DecidableEq, Repr

/-- The bits of the characters that pass a test, the first character lowest. -/
def bits (test : Char → Bool) (text : List Char) : Nat :=
  text.foldr (fun c n => 2 * n + (test c).toNat) 0

@[simp] theorem bits_nil (test : Char → Bool) : bits test [] = 0 := rfl

@[simp] theorem bits_cons (test : Char → Bool) (c : Char) (cs : List Char) :
    bits test (c :: cs) = 2 * bits test cs + (test c).toNat := rfl

/-- All places of a text. -/
def places (text : List Char) : Nat := (1 <<< (text.length + 1)) - 1

namespace Look

/-- The places of a text that are like this. -/
def places (text : List Char) (l : Look) : Nat :=
  let all := Pattern.places text
  let last := 1 <<< text.length
  let newline := bits (· == '\n') text
  let ret := bits (· == '\r') text
  match l with
  | .textStart => 1
  | .textStop => last
  | .lineStart => 1 ||| (newline <<< 1)
  | .lineStop => last ||| newline
  | .returnStart => 1 ||| (newline <<< 1) ||| ((ret <<< 1) &&& (all ^^^ newline))
  | .returnStop => last ||| ret ||| (newline &&& (all ^^^ (ret <<< 1)))
  | .boundary words => (bits words.contains text <<< 1) ^^^ bits words.contains text
  | .inside words => all ^^^ (bits words.contains text <<< 1) ^^^ bits words.contains text
  | .wordStart words => bits words.contains text &&& (all ^^^ (bits words.contains text <<< 1))
  | .wordStop words => (bits words.contains text <<< 1) &&& (all ^^^ bits words.contains text)
  | .noneBefore words => all ^^^ (bits words.contains text <<< 1)
  | .noneBehind words => all ^^^ bits words.contains text

end Look

/-- Takes a step so many times, or until it changes nothing any more. -/
def settle (step : Nat → Nat) : Nat → Nat → Nat
  | 0, s => s
  | n + 1, s => if step s = s then s else settle step n (step s)

theorem settle_of_eq {step : Nat → Nat} {s : Nat} (h : step s = s) (n : Nat) :
    settle step n s = s := by
  cases n <;> simp [settle, h]

/-- Stopping early makes no difference. -/
theorem settle_eq_repeat (step : Nat → Nat) (n s : Nat) :
    settle step n s = Nat.repeat step n s := by
  induction n generalizing s with
  | zero => rfl
  | succ n ih =>
      have shift : ∀ (n t : Nat), Nat.repeat step (n + 1) t = Nat.repeat step n (step t) := by
        intro n
        induction n with
        | zero => intro t; rfl
        | succ n ihn => intro t; exact congrArg step (ihn t)
      rw [settle, shift]
      split
      · next h => rw [h, ← ih, settle_of_eq h]
      · exact ih _

namespace Form

/-- The places of a text that a form leads to from some places. A repetition without a largest
number can be repeated as often as there are places: more repetitions lead nowhere new. -/
def reach (text : List Char) : Form → Nat → Nat
  | .empty, s => s
  | .chars c, s => (s &&& bits c.contains text) <<< 1
  | .look l, s => s &&& l.places text
  | .seq a b, s => b.reach text (a.reach text s)
  | .either a b, s => a.reach text s ||| b.reach text s
  | .times f least most?, s =>
      let more := (most?.getD (least + text.length + 1)) - least
      settle (fun s => s ||| f.reach text s) more (settle (f.reach text) least s)
  | .remember f, s => f.reach text s

theorem reach_seq (text : List Char) (a b : Form) (s : Nat) :
    (seq a b).reach text s = b.reach text (a.reach text s) := rfl

theorem reach_either (text : List Char) (a b : Form) (s : Nat) :
    (either a b).reach text s = a.reach text s ||| b.reach text s := rfl

/-- From no place nothing is reached. -/
theorem reach_zero (text : List Char) (f : Form) : f.reach text 0 = 0 := by
  induction f with
  | empty => rfl
  | chars c => simp [reach]
  | look l => simp [reach]
  | seq a b iha ihb => rw [reach_seq, iha, ihb]
  | either a b iha ihb => simp [reach_either, iha, ihb]
  | times f least most? ih =>
      simp only [reach]
      rw [settle_of_eq ih, settle_of_eq (by simp [ih])]
  | remember f ih => exact ih

/-- Whether a text has a part that the form stands for. -/
def occursIn (f : Form) (text : List Char) : Bool := f.reach text (places text) != 0

end Form

end Glossary.Pattern
