import Glossary.Proofs.Session.Timer
import Glossary.Session
import Mathlib.Data.List.Induction

/-!
# The course of a session

A session serves requests in any order: an edit is noted, a poll asks whether a
pass is due, and a pass may be asked for at once. What it holds at the end can be
read off what was served. Its timer stands where the edits and the polls that ran a
pass have brought it; passes that were asked for at once do not touch it. Its latest
analysis is that of the text of the last pass that succeeded, and it counts the
passes that succeeded.

## Main results

* `Session.Tallies.record` — what a pass does to the latest analysis and the count.
* `Session.Accords.serve` — what one request keeps.
* `Session.accords_run` — what every course keeps.
* `Session.run_law` — what a session does next, by what it has served.
-/

namespace Glossary

open Debouncer (Mark Waiting lastEdit?)

namespace Session

/-- What a session is asked for. Edits and polls carry the time on the caller's clock. -/
inductive Request where
  | edit (now : Nat)
  | poll (now : Nat) (text : String)
  | analyze (text : String)
  deriving DecidableEq, Repr

/-- A request with the outcome of the pass, if one was run. -/
structure Served where
  request : Request
  outcome? : Option (Except AnalysisError Analysis)

namespace Served

/-- What the request was for the timer: an edit, or a poll that ran a pass. -/
def mark? (x : Served) : Option Mark :=
  match x.request, x.outcome? with
  | .edit now, _ => some (.edit now)
  | .poll _ _, some _ => some .fired
  | _, _ => none

/-- The text of a pass that succeeded, with its analysis. -/
def success? (x : Served) : Option (String × Analysis) :=
  match x.request, x.outcome? with
  | .poll _ text, some (.ok a) | .analyze text, some (.ok a) => some (text, a)
  | _, _ => none

end Served

/-- The edits and the polls that ran a pass, in order. -/
def marks (served : List Served) : List Mark := served.filterMap Served.mark?

theorem marks_concat (served : List Served) (x : Served) :
    marks (served ++ [x]) = marks served ++ x.mark?.toList := by
  rw [marks, List.filterMap_append, List.filterMap_cons]
  cases x.mark? <;> rfl

/-- The passes that succeeded, in order. -/
def successes (served : List Served) : List (String × Analysis) :=
  served.filterMap Served.success?

/-- Serves one request. -/
def serve (s : Session) : Request → Option (Except AnalysisError Analysis) × Session
  | .edit now => (none, s.edit now)
  | .poll now text => s.poll now text
  | .analyze text => ((s.analyzeNow text).1, (s.analyzeNow text).2)

/-- Serves one more request, after those that were served. -/
def serveNext (course : List Served × Session) (r : Request) : List Served × Session :=
  (course.1 ++ [⟨r, (course.2.serve r).1⟩], (course.2.serve r).2)

/-- Serves requests in order. -/
def run (s : Session) (rs : List Request) : List Served × Session := rs.foldl serveNext ([], s)

theorem run_concat (s : Session) (rs : List Request) (r : Request) :
    s.run (rs ++ [r]) = serveNext (s.run rs) r := by
  rw [run, run, List.foldl_append]
  rfl

/-! ## What a pass does -/

/-- The session has the latest analysis of the passes that succeeded, and their number. -/
structure Tallies (s : Session) (served : List Served) : Prop where
  passes_eq : s.passes = (successes served).length
  latest?_eq : s.latest? = (successes served).getLast?.map (·.2)
  analyze_eq : ∀ p ∈ successes served, s.store.analyze p.1 = .ok p.2

variable {s : Session} {served : List Served}

/-- A request without a pass leaves the session's results, whatever it does to the timer. -/
theorem Tallies.skip (h : s.Tallies served) {x : Served} (hx : x.success? = none)
    (d : Debouncer) : { s with debouncer := d }.Tallies (served ++ [x]) := by
  have hsame : successes (served ++ [x]) = successes served := by simp [successes, hx]
  refine ⟨?_, ?_, ?_⟩
  · rw [hsame]
    exact h.passes_eq
  · rw [hsame]
    exact h.latest?_eq
  · rw [hsame]
    exact h.analyze_eq

/-- A pass that succeeds is the latest one; a pass that fails leaves no trace. -/
theorem Tallies.record (h : s.Tallies served) {x : Served} {text : String}
    (hx : x.success? = (s.store.analyze text).toOption.map (text, ·)) (d : Debouncer) :
    ({ s with debouncer := d }.record (s.store.analyze text)).Tallies (served ++ [x]) := by
  cases hpass : s.store.analyze text with
  | error e =>
      rw [hpass] at hx
      exact h.skip hx d
  | ok a =>
      have hmore : successes (served ++ [x]) = successes served ++ [(text, a)] := by
        rw [hpass] at hx
        simp [successes, hx, Except.toOption]
      refine ⟨?_, ?_, ?_⟩
      · rw [hmore, List.length_append, ← h.passes_eq]
        rfl
      · rw [hmore, List.getLast?_concat]
        rfl
      · intro p hp
        rw [hmore, List.mem_append, List.mem_singleton] at hp
        rcases hp with hp | rfl
        · exact h.analyze_eq p hp
        · exact hpass

/-! ## What a request does -/

/-- The session is where the requests that were served have brought it. -/
structure Accords (s : Session) (store : Store) (origin : Debouncer) (served : List Served) :
    Prop where
  store_eq : s.store = store
  follows : s.debouncer.Follows origin (marks served)
  tallies : s.Tallies served

variable {store : Store} {origin : Debouncer}

theorem accords_start (store : Store) (origin : Debouncer) :
    (start store origin).Accords store origin [] :=
  ⟨rfl, .start origin, rfl, rfl, by simp [successes]⟩

/-- An edit sets the timer, a poll that runs a pass settles it, and nothing else touches it. -/
theorem Accords.serve (h : s.Accords store origin served) (r : Request) :
    (s.serve r).2.Accords store origin (served ++ [⟨r, (s.serve r).1⟩]) := by
  cases r with
  | edit now =>
      refine ⟨h.store_eq, ?_, h.tallies.skip rfl _⟩
      rw [marks_concat]
      exact h.follows.edit now
  | poll now text =>
      cases hdue : s.debouncer.due now with
      | false =>
          have hserve : s.serve (.poll now text) = (none, s) := poll_of_not_due hdue text
          rw [hserve]
          refine ⟨h.store_eq, ?_, h.tallies.skip rfl _⟩
          rw [marks_concat]
          simpa [Served.mark?] using h.follows
      | true =>
          have hserve : s.serve (.poll now text) = _ := poll_of_due hdue text
          rw [hserve]
          refine ⟨by simpa using h.store_eq, ?_, h.tallies.record ?_ _⟩
          · rw [marks_concat, debouncer_record]
            exact h.follows.take hdue
          · cases s.store.analyze text <;> rfl
  | analyze text =>
      refine ⟨by simpa [Session.serve, analyzeNow] using h.store_eq, ?_, ?_⟩
      · rw [marks_concat]
        simpa [Session.serve, analyzeNow, Served.mark?] using h.follows
      · have hpass : (Served.mk (.analyze text) (some (s.store.analyze text))).success? =
            (s.store.analyze text).toOption.map (text, ·) := by
          cases s.store.analyze text <;> rfl
        exact h.tallies.record hpass s.debouncer

/-- Every course keeps a session where it should be. -/
theorem accords_run (store : Store) (origin : Debouncer) (rs : List Request) :
    ((start store origin).run rs).2.Accords store origin ((start store origin).run rs).1 := by
  induction rs using List.reverseRecOn with
  | nil => exact accords_start store origin
  | append_singleton rs r ih =>
      rw [run_concat]
      exact ih.serve r

theorem map_request_run (s : Session) (rs : List Request) :
    (s.run rs).1.map (·.request) = rs := by
  induction rs using List.reverseRecOn with
  | nil => rfl
  | append_singleton rs r ih => simp [run_concat, serveNext, ih]

/-! ## What comes next -/

/-- A poll runs a pass when an edit came after the last poll that did and the delay after
the last edit is over, and a poll that runs none changes nothing. -/
theorem Accords.poll (h : s.Accords store origin served) (now : Nat) (text : String) :
    (origin.Due (marks served) now ∧ (s.poll now text).1 = some (store.analyze text) ∧
        (s.poll now text).2 =
          { s with debouncer := (s.debouncer.take now).2 }.record (store.analyze text)) ∨
      (¬origin.Due (marks served) now ∧ s.poll now text = (none, s)) := by
  rw [← h.follows.due_iff, ← h.store_eq]
  cases hdue : s.debouncer.due now with
  | true =>
      rw [poll_of_due hdue]
      exact .inl ⟨rfl, rfl, rfl⟩
  | false => exact .inr ⟨Bool.false_ne_true, poll_of_not_due hdue text⟩

/-- What a session does, whatever it was asked for before: when a poll runs a pass, that
passes asked for at once leave the timer alone, what the latest analysis and the number
of passes are, and that a pass which fails leaves both and uses up the edit that a poll
ran it for. -/
theorem run_law (store : Store) (delay : Nat) (rs : List Request) :
    let served := ((start store ⟨delay, none⟩).run rs).1
    let s := ((start store ⟨delay, none⟩).run rs).2
    served.map (·.request) = rs ∧
    (∀ now text,
      ((s.poll now text).1.isSome = true ↔ Waiting (marks served) ∧
        ∃ t, lastEdit? (marks served) = some t ∧ t + delay ≤ now) ∧
      ((s.poll now text).1 = none → (s.poll now text).2 = s) ∧
      ∀ outcome, (s.poll now text).1 = some outcome → outcome = store.analyze text) ∧
    (∀ text, (s.analyzeNow text).1 = store.analyze text ∧
      (s.analyzeNow text).2.debouncer = s.debouncer) ∧
    s.passes = (successes served).length ∧
    s.latest? = (successes served).getLast?.map (·.2) ∧
    (∀ p ∈ successes served, store.analyze p.1 = .ok p.2) ∧
    ∀ text e, store.analyze text = .error e →
      (s.analyzeNow text).2 = s ∧
      ∀ now, (s.poll now text).1.isSome = true →
        (s.poll now text).2.latest? = s.latest? ∧ (s.poll now text).2.passes = s.passes ∧
        (s.poll now text).2.isPending = false := by
  intro served s
  have h : s.Accords store ⟨delay, none⟩ served := accords_run store ⟨delay, none⟩ rs
  have hidle : (⟨delay, none⟩ : Debouncer).deadline? = none := rfl
  have hdue := Debouncer.due_iff_of_idle hidle (marks served)
  refine ⟨map_request_run _ rs, ?_, ?_, h.tallies.passes_eq, h.tallies.latest?_eq, ?_, ?_⟩
  · intro now text
    rcases h.poll now text with ⟨hyes, houtcome, -⟩ | ⟨hno, hpoll⟩
    · rw [hdue] at hyes
      simp [houtcome, hyes]
    · rw [hdue] at hno
      simp only [hpoll]
      simpa using hno
  · intro text
    rw [analyzeNow, ← h.store_eq]
    exact ⟨rfl, debouncer_record s _⟩
  · rw [← h.store_eq]
    exact h.tallies.analyze_eq
  · intro text e he
    refine ⟨by rw [analyzeNow, h.store_eq, he]; rfl, ?_⟩
    intro now hsome
    rcases h.poll now text with ⟨hyes, -, hafter⟩ | ⟨-, hpoll⟩
    · rw [hafter, he]
      refine ⟨rfl, rfl, ?_⟩
      rw [← h.follows.due_iff] at hyes
      simp [record, isPending, Debouncer.isPending, Debouncer.take, hyes]
    · rw [hpoll] at hsome
      cases hsome

end Session

end Glossary
