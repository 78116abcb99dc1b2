import Glossary.Limits

/-!
# Debouncers

A debouncer waits until edits have stopped for a while. Each edit sets the deadline anew; when the
deadline has come, the next question is answered with yes, once. Times are microseconds on the
caller's clock, which may go back.

## Main results

* `due_iff` — yes means that an edit is waiting and its deadline has come.
* `remaining?_eq_zero_iff` — no time remains exactly when the answer would be yes.
-/

namespace Glossary

/-- A delay, and the deadline of the last edit while it is waited for. -/
structure Debouncer where
  delay : Nat
  deadline? : Option Nat
  deriving DecidableEq, Repr

namespace Debouncer

/-- A debouncer with a delay in milliseconds, waiting for nothing. -/
def ofMilliseconds (n : Nat) : Debouncer := ⟨1000 * n, none⟩

/-- A debouncer with the usual delay. -/
def standard : Debouncer := ofMilliseconds Limits.debounceDelay

/-- The delay in milliseconds. -/
def milliseconds (d : Debouncer) : Nat := d.delay / 1000

/-- Notes an edit. -/
def edit (d : Debouncer) (now : Nat) : Debouncer := { d with deadline? := some (now + d.delay) }

def isPending (d : Debouncer) : Bool := d.deadline?.isSome

/-- The time left to the deadline, none once it has come. -/
def remaining? (d : Debouncer) (now : Nat) : Option Nat := d.deadline?.map (· - now)

/-- Whether an edit is waiting and its deadline has come. -/
def due (d : Debouncer) (now : Nat) : Bool := d.deadline?.any (· ≤ now)

/-- Asks whether the deadline has come; after a yes nothing is waited for. -/
def take (d : Debouncer) (now : Nat) : Bool × Debouncer :=
  if d.due now then (true, { d with deadline? := none }) else (false, d)

theorem due_iff {d : Debouncer} {now : Nat} :
    d.due now = true ↔ ∃ t, d.deadline? = some t ∧ t ≤ now := by
  cases h : d.deadline? <;> simp [due, h]

theorem remaining?_eq_zero_iff {d : Debouncer} {now : Nat} :
    d.remaining? now = some 0 ↔ d.due now = true := by
  cases h : d.deadline? <;> simp [due, remaining?, h, Nat.sub_eq_zero_iff_le]

@[simp] theorem delay_edit (d : Debouncer) (now : Nat) : (d.edit now).delay = d.delay := rfl

@[simp] theorem delay_take (d : Debouncer) (now : Nat) : (d.take now).2.delay = d.delay := by
  unfold take
  split <;> rfl

end Debouncer

end Glossary
