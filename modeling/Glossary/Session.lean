import Glossary.Analysis
import Glossary.Debouncer

/-!
# Sessions

A session analyzes a text that is being edited. Edits are noted with their time; a poll runs a
full pass over the text once the edits have rested for the delay. A pass can also be asked for at
once, which does not touch the timer. The session keeps the last analysis that succeeded.
-/

namespace Glossary

/-- A store at work on a text that is being edited. -/
structure Session where
  store : Store
  debouncer : Debouncer
  latest? : Option Analysis
  passes : Nat

namespace Session

/-- A session that has seen nothing yet. -/
def start (s : Store) (d : Debouncer) : Session := ⟨s, d, none, 0⟩

def isPending (s : Session) : Bool := s.debouncer.isPending

/-- Notes an edit. -/
def edit (s : Session) (now : Nat) : Session := { s with debouncer := s.debouncer.edit now }

/-- Takes in the outcome of a pass. A pass that failed leaves no trace. -/
def record (s : Session) : Except AnalysisError Analysis → Session
  | .ok a => { s with latest? := some a, passes := s.passes + 1 }
  | .error _ => s

/-- Runs a pass at once. -/
def analyzeNow (s : Session) (text : String) : Except AnalysisError Analysis × Session :=
  let outcome := s.store.analyze text
  (outcome, s.record outcome)

/-- Runs a pass if the edits have rested long enough. The edit is used up even if the pass
fails. -/
def poll (s : Session) (now : Nat) (text : String) :
    Option (Except AnalysisError Analysis) × Session :=
  let (due, d) := s.debouncer.take now
  let s := { s with debouncer := d }
  if due then
    let (outcome, s) := s.analyzeNow text
    (some outcome, s)
  else (none, s)

theorem poll_of_not_due {s : Session} {now : Nat} (h : s.debouncer.due now = false)
    (text : String) : s.poll now text = (none, s) := by
  simp [poll, Debouncer.take, h]

theorem poll_of_due {s : Session} {now : Nat} (h : s.debouncer.due now = true) (text : String) :
    s.poll now text = (some (s.store.analyze text),
      { s with debouncer := (s.debouncer.take now).2 }.record (s.store.analyze text)) := by
  simp [poll, analyzeNow, Debouncer.take, h]

@[simp] theorem store_record (s : Session) (outcome : Except AnalysisError Analysis) :
    (s.record outcome).store = s.store := by
  cases outcome <;> rfl

theorem record_with_debouncer (s : Session) (d : Debouncer)
    (outcome : Except AnalysisError Analysis) :
    { s with debouncer := d }.record outcome = { s.record outcome with debouncer := d } := by
  cases outcome <;> rfl

@[simp] theorem debouncer_record (s : Session) (outcome : Except AnalysisError Analysis) :
    (s.record outcome).debouncer = s.debouncer := by
  cases outcome <;> rfl

end Session

end Glossary
