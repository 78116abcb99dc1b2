import Glossary.Debouncer
import Mathlib.Data.List.Basic

/-!
# When a debouncer says yes

What a debouncer has gone through is a list of marks: each edit with its time, and
each yes. Only two things of it matter. An edit is waited for if it came after the
last yes; and the deadline is that of the last edit, even where the clock went back
and an earlier deadline was later.

## Main results

* `Debouncer.Follows.edit`, `Debouncer.Follows.take` — what an edit and a question
  do to a debouncer that stands where its marks say.
* `Debouncer.Follows.due_iff` — when such a debouncer says yes.
-/

namespace Glossary

namespace Debouncer

/-- What a debouncer goes through. -/
inductive Mark where
  | edit (now : Nat)
  | fired
  deriving DecidableEq, Repr

def Mark.editTime? : Mark → Option Nat
  | .edit now => some now
  | .fired => none

/-- An edit came after the last yes, or after the start where there was none. -/
def Waiting (marks : List Mark) : Prop :=
  ∃ before after, marks = before ++ after ∧ .fired ∉ after ∧ ∃ now, .edit now ∈ after

/-- The time of the last edit. -/
def lastEdit? (marks : List Mark) : Option Nat := (marks.filterMap Mark.editTime?).getLast?

/-! ## Marks -/

theorem not_waiting_nil : ¬Waiting [] := by
  rintro ⟨before, after, happend, -, now, hedit⟩
  rw [(List.append_eq_nil_iff.1 happend.symm).2] at hedit
  cases hedit

theorem waiting_concat_edit (marks : List Mark) (now : Nat) : Waiting (marks ++ [.edit now]) :=
  ⟨marks, [.edit now], rfl, by simp, now, by simp⟩

theorem not_waiting_concat_fired (marks : List Mark) : ¬Waiting (marks ++ [.fired]) := by
  rintro ⟨before, after, happend, hfired, now, hedit⟩
  -- what came after the last yes would end in it
  rcases List.eq_nil_or_concat after with rfl | ⟨rest, last, rfl⟩
  · cases hedit
  · rw [List.concat_eq_append, ← List.append_assoc] at happend
    obtain ⟨-, hlast⟩ := List.append_inj' happend rfl
    rw [List.singleton_inj] at hlast
    subst hlast
    simp at hfired

@[simp] theorem lastEdit?_concat_edit (marks : List Mark) (now : Nat) :
    lastEdit? (marks ++ [.edit now]) = some now := by
  simp [lastEdit?, Mark.editTime?]

/-! ## Debouncers -/

/-- The debouncer stands where these marks have brought it from where it began. -/
structure Follows (d origin : Debouncer) (marks : List Mark) : Prop where
  delay_eq : d.delay = origin.delay
  deadline?_iff : ∀ t, d.deadline? = some t ↔
    (Waiting marks ∧ ∃ now, lastEdit? marks = some now ∧ now + origin.delay = t) ∨
      (marks = [] ∧ origin.deadline? = some t)

/-- When the next question is answered with yes: by the marks, or while there are none by
the edit that was waited for already at the beginning. -/
def Due (origin : Debouncer) (marks : List Mark) (now : Nat) : Prop :=
  (Waiting marks ∧ ∃ t, lastEdit? marks = some t ∧ t + origin.delay ≤ now) ∨
    (marks = [] ∧ origin.due now = true)

variable {d origin : Debouncer} {marks : List Mark}

theorem Follows.start (origin : Debouncer) : origin.Follows origin [] :=
  ⟨rfl, fun t => by simp [not_waiting_nil]⟩

/-- The deadline is that of the last edit. -/
theorem Follows.edit (h : d.Follows origin marks) (now : Nat) :
    (d.edit now).Follows origin (marks ++ [.edit now]) := by
  refine ⟨h.delay_eq, ?_⟩
  intro t
  simp [Debouncer.edit, waiting_concat_edit, h.delay_eq]

/-- After a yes nothing is waited for. -/
theorem Follows.take (h : d.Follows origin marks) {now : Nat} (hdue : d.due now = true) :
    (d.take now).2.Follows origin (marks ++ [.fired]) := by
  rw [Debouncer.take, if_pos hdue]
  refine ⟨h.delay_eq, ?_⟩
  intro t
  simp [not_waiting_concat_fired]

theorem Follows.due_iff (h : d.Follows origin marks) (now : Nat) :
    d.due now = true ↔ origin.Due marks now := by
  rw [Debouncer.due_iff, Due, Debouncer.due_iff]
  constructor
  · rintro ⟨t, ht, hle⟩
    rcases (h.deadline?_iff t).1 ht with ⟨hwaiting, now', hlast, rfl⟩ | ⟨hnil, horigin⟩
    · exact .inl ⟨hwaiting, now', hlast, hle⟩
    · exact .inr ⟨hnil, t, horigin, hle⟩
  · rintro (⟨hwaiting, t, hlast, hle⟩ | ⟨hnil, t, horigin, hle⟩)
    · exact ⟨_, (h.deadline?_iff _).2 (.inl ⟨hwaiting, t, hlast, rfl⟩), hle⟩
    · exact ⟨t, (h.deadline?_iff t).2 (.inr ⟨hnil, horigin⟩), hle⟩

/-- The clock went back, and the deadline of the last edit is the earlier one. -/
example : (((⟨10, none⟩ : Debouncer).edit 5).edit 3).due 13 = true := by decide

/-- A debouncer that began with nothing to wait for says yes by its marks alone. -/
theorem due_iff_of_idle (h : origin.deadline? = none) (marks : List Mark) (now : Nat) :
    origin.Due marks now ↔
      Waiting marks ∧ ∃ t, lastEdit? marks = some t ∧ t + origin.delay ≤ now := by
  simp [Due, due, h]

end Debouncer

end Glossary
