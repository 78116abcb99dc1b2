import Glossary.Proofs.Session.Timer
import Mathlib.Data.List.Induction

/-!
# The answers of a debouncer

A debouncer is told of edits, asked whether it is due, and asked how much time remains,
in any order and by a clock that may go back. Everything that it answers can be read off
the edits and its own yeses, which are its marks: whether an edit came after the last yes,
and when the last edit was. Asking for the time that remains changes nothing.

Every yes uses up an edit. So does every edit that comes while another one is waited for,
and that is why there may be fewer yeses than edits, but never more.

## Main results

* `Debouncer.Heeds.call` — what one call keeps.
* `Debouncer.heeds_run` — what every run keeps.
* `Debouncer.answers_law` — what a debouncer answers next, and how often it has said yes.
-/

namespace Glossary

namespace Debouncer

/-- What a debouncer is called with; the time is that of the caller's clock. -/
inductive Call where
  | edit (now : Nat)
  | take (now : Nat)
  | remaining (now : Nat)
  deriving DecidableEq, Repr

/-- What a debouncer answers. -/
inductive Answer where
  | noted
  | due (yes : Bool)
  | left (time? : Option Nat)
  deriving DecidableEq, Repr

/-- Answers one call. -/
def call (d : Debouncer) : Call → Answer × Debouncer
  | .edit now => (.noted, d.edit now)
  | .take now => (.due (d.take now).1, (d.take now).2)
  | .remaining now => (.left (d.remaining? now), d)

def Call.isEdit : Call → Bool
  | .edit _ => true
  | _ => false

/-- The mark that a call and its answer leave: an edit, or a yes. -/
def mark? (x : Call × Answer) : Option Mark :=
  match x with
  | (.edit now, _) => some (.edit now)
  | (_, .due true) => some .fired
  | _ => none

/-- The edits and the yeses, in order. -/
def marks (heard : List (Call × Answer)) : List Mark := heard.filterMap mark?

theorem marks_concat (heard : List (Call × Answer)) (x : Call × Answer) :
    marks (heard ++ [x]) = marks heard ++ (mark? x).toList := by
  rw [marks, List.filterMap_append, List.filterMap_cons]
  cases mark? x <;> rfl

/-- How many edits were noted. -/
def edits (heard : List (Call × Answer)) : Nat := heard.countP (·.1.isEdit)

/-- How often the answer was yes. -/
def yeses (heard : List (Call × Answer)) : Nat := heard.countP (·.2 == .due true)

theorem edits_concat (heard : List (Call × Answer)) (x : Call × Answer) :
    edits (heard ++ [x]) = edits heard + x.1.isEdit.toNat := by
  cases hedit : x.1.isEdit <;> simp [edits, hedit]

theorem yeses_concat (heard : List (Call × Answer)) (x : Call × Answer) :
    yeses (heard ++ [x]) = yeses heard + (x.2 == .due true).toNat := by
  cases hyes : x.2 == .due true <;> simp [yeses, hyes]

/-- Answers one more call, after those that were heard. -/
def callNext (run : List (Call × Answer) × Debouncer) (c : Call) :
    List (Call × Answer) × Debouncer :=
  (run.1 ++ [(c, (run.2.call c).1)], (run.2.call c).2)

/-- Answers calls in order. -/
def run (d : Debouncer) (calls : List Call) : List (Call × Answer) × Debouncer :=
  calls.foldl callNext ([], d)

theorem run_concat (d : Debouncer) (calls : List Call) (c : Call) :
    d.run (calls ++ [c]) = callNext (d.run calls) c := by
  rw [run, run, List.foldl_append]
  rfl

theorem map_fst_run (d : Debouncer) (calls : List Call) :
    (d.run calls).1.map Prod.fst = calls := by
  induction calls using List.reverseRecOn with
  | nil => rfl
  | append_singleton calls c ih => simp [run_concat, callNext, ih]

/-! ## What a call does -/

/-- The debouncer is where the calls that were heard have brought it. An edit that is still
waited for has not been used up by a yes. -/
structure Heeds (d : Debouncer) (delay : Nat) (heard : List (Call × Answer)) : Prop where
  follows : d.Follows ⟨delay, none⟩ (marks heard)
  yeses_le : yeses heard + d.isPending.toNat ≤ edits heard

variable {d : Debouncer} {delay : Nat} {heard : List (Call × Answer)}

theorem heeds_start (delay : Nat) : Heeds ⟨delay, none⟩ delay [] :=
  ⟨.start _, Nat.le_refl 0⟩

/-- A call that is neither an edit nor answered with yes leaves everything as it is. -/
theorem Heeds.pass (h : d.Heeds delay heard) {x : Call × Answer} (hmark : mark? x = none)
    (hedit : x.1.isEdit = false) (hyes : (x.2 == .due true) = false) :
    d.Heeds delay (heard ++ [x]) := by
  refine ⟨?_, ?_⟩
  · rw [marks_concat, hmark]
    simpa using h.follows
  · rw [yeses_concat, edits_concat, hyes, hedit]
    exact h.yeses_le

theorem Heeds.call (h : d.Heeds delay heard) (c : Call) :
    (d.call c).2.Heeds delay (heard ++ [(c, (d.call c).1)]) := by
  have hle := h.yeses_le
  cases c with
  | edit now =>
      refine ⟨?_, ?_⟩
      · rw [marks_concat]
        exact h.follows.edit now
      · rw [yeses_concat, edits_concat]
        show yeses heard + 0 + 1 ≤ edits heard + 1
        omega
  | take now =>
      cases hdue : d.due now with
      | false =>
          have hcall : d.call (.take now) = (.due false, d) := by
            simp [Debouncer.call, Debouncer.take, hdue]
          rw [hcall]
          exact h.pass rfl rfl rfl
      | true =>
          have hcall : d.call (.take now) = (.due true, (d.take now).2) := by
            simp [Debouncer.call, Debouncer.take, hdue]
          have hpending : d.isPending = true := by
            obtain ⟨t, ht, -⟩ := Debouncer.due_iff.1 hdue
            simp [isPending, ht]
          have hafter : (d.take now).2.isPending = false := by
            simp [Debouncer.take, hdue, isPending]
          rw [hcall]
          refine ⟨?_, ?_⟩
          · rw [marks_concat]
            exact h.follows.take hdue
          · rw [hpending] at hle
            rw [yeses_concat, edits_concat, hafter]
            exact hle
  | remaining now => exact h.pass rfl rfl rfl

/-- Every run leaves a debouncer where its marks say. -/
theorem heeds_run (delay : Nat) (calls : List Call) :
    ((⟨delay, none⟩ : Debouncer).run calls).2.Heeds delay
      ((⟨delay, none⟩ : Debouncer).run calls).1 := by
  induction calls using List.reverseRecOn with
  | nil => exact heeds_start delay
  | append_singleton calls c ih =>
      rw [run_concat]
      exact ih.call c

/-! ## What comes next -/

/-- An edit that is waited for has a time. -/
theorem Waiting.exists_lastEdit? {marks : List Mark} (h : Waiting marks) :
    ∃ t, lastEdit? marks = some t := by
  obtain ⟨before, after, rfl, -, now, hedit⟩ := h
  have hmem : now ∈ (before ++ after).filterMap Mark.editTime? :=
    List.mem_filterMap.2 ⟨.edit now, List.mem_append_right _ hedit, rfl⟩
  exact ⟨_, List.getLast?_eq_some_getLast (List.ne_nil_of_mem hmem)⟩

/-- The deadline is the time of the last edit and the delay, while an edit is waited for. -/
theorem Heeds.deadline? (h : d.Heeds delay heard) :
    (d.deadline? = none ↔ ¬Waiting (marks heard)) ∧
      ∀ t, Waiting (marks heard) → lastEdit? (marks heard) = some t →
        d.deadline? = some (t + delay) := by
  have hsome : ∀ t, Waiting (marks heard) → lastEdit? (marks heard) = some t →
      d.deadline? = some (t + delay) := fun t hwaiting hlast =>
    (h.follows.deadline?_iff _).2 (.inl ⟨hwaiting, t, hlast, rfl⟩)
  refine ⟨?_, hsome⟩
  constructor
  · intro hnone hwaiting
    obtain ⟨t, hlast⟩ := hwaiting.exists_lastEdit?
    rw [hsome t hwaiting hlast] at hnone
    cases hnone
  · intro hnot
    rw [Option.eq_none_iff_forall_ne_some]
    intro t ht
    rcases (h.follows.deadline?_iff t).1 ht with ⟨hwaiting, -⟩ | ⟨-, hidle⟩
    · exact hnot hwaiting
    · cases hidle

/-- What a debouncer answers next, whatever it was called with before and however the clock went.
It is due when an edit came after the last yes and the time of the last edit and the delay is
over. It tells a remaining time when such an edit came: up to that deadline, and zero past it. So
it is due exactly when no time remains, and it is pending exactly when it tells a time. It never
said yes more often than it was told of edits. -/
theorem answers_law (delay : Nat) (calls : List Call) :
    let heard := ((⟨delay, none⟩ : Debouncer).run calls).1
    let d := ((⟨delay, none⟩ : Debouncer).run calls).2
    heard.map Prod.fst = calls ∧
    (∀ now,
      ((d.call (.take now)).1 = .due true ↔ Waiting (marks heard) ∧
        ∃ t, lastEdit? (marks heard) = some t ∧ t + delay ≤ now) ∧
      ((d.call (.remaining now)).1 = .left none ↔ ¬Waiting (marks heard)) ∧
      (Waiting (marks heard) → ∃ t, lastEdit? (marks heard) = some t ∧
        (d.call (.remaining now)).1 =
          .left (some (if t + delay ≤ now then 0 else t + delay - now))) ∧
      ((d.call (.take now)).1 = .due true ↔ (d.call (.remaining now)).1 = .left (some 0)) ∧
      (d.isPending = true ↔ (d.call (.remaining now)).1 ≠ .left none)) ∧
    yeses heard ≤ edits heard := by
  intro heard d
  have h : d.Heeds delay heard := heeds_run delay calls
  obtain ⟨hnone, hsome⟩ := h.deadline?
  have hidle : (⟨delay, none⟩ : Debouncer).deadline? = none := rfl
  have hyes : ∀ now, (d.call (.take now)).1 = .due true ↔ d.due now = true := by
    intro now
    cases hdue : d.due now <;> simp [Debouncer.call, Debouncer.take, hdue]
  have hleft : ∀ now, (d.call (.remaining now)).1 = .left (d.deadline?.map (· - now)) :=
    fun _ => rfl
  refine ⟨map_fst_run _ calls, ?_, ?_⟩
  · intro now
    refine ⟨?_, ?_, ?_, ?_, ?_⟩
    · rw [hyes, h.follows.due_iff, due_iff_of_idle hidle]
    · rw [hleft, Answer.left.injEq, Option.map_eq_none_iff, hnone]
    · intro hwaiting
      obtain ⟨t, hlast⟩ := hwaiting.exists_lastEdit?
      refine ⟨t, hlast, ?_⟩
      rw [hleft, hsome t hwaiting hlast, Option.map_some]
      split
      · next hpast => rw [Nat.sub_eq_zero_of_le hpast]
      · rfl
    · rw [hyes, ← remaining?_eq_zero_iff, hleft, Answer.left.injEq]
      rfl
    · rw [hleft, ne_eq, Answer.left.injEq, Option.map_eq_none_iff, isPending,
        Option.isSome_iff_ne_none]
  · exact Nat.le_of_add_right_le h.yeses_le

/-- The clock goes back, and the last edit brings the deadline forward. -/
example : ((⟨10, none⟩ : Debouncer).run
      [.edit 5, .take 14, .edit 3, .remaining 12, .take 13, .remaining 14]).1.map Prod.snd =
    [.noted, .due false, .noted, .left (some 1), .due true, .left none] := by decide

end Debouncer

end Glossary
