import Glossary.Proofs.Session.Timer
import Glossary.Proofs.Watcher.Sight
import Mathlib.Data.List.Induction

/-!
# The course of a watcher

Between two checks anything may happen to a file: it may be replaced, go away and
come back. So every step of a course has a machine of its own, and only while a
check runs does the file hold still. A change is observed by a check that finds
another time on the file and can load it; a check that cannot load it does nothing,
so the next one finds the change again. The timer goes by the changes that were
observed, and text and time are always those of one version of the file.

## Main results

* `Watcher.Accords.takesIn` — what a check that does not fail to load makes of the file.
* `Watcher.Accords.polled` — when a poll runs a pass, and over which text.
* `Watcher.accords_course` — what every course keeps.
* `Watcher.course_law` — what a watcher does next, whatever happened before.
-/

namespace Glossary

open Debouncer (Mark Waiting lastEdit?)

variable {σ : Type} [Host (StateM σ)]

/-- What loading a file gives on a machine. -/
def SourceFile.loaded (path : Path) (machine : σ) : Except SourceError SourceFile :=
  ((SourceFile.load path : ExceptT SourceError (StateM σ) SourceFile).run.run machine).1

theorem Steady.loaded_eq {path : Path} (h : Steady σ path) (machine : σ) :
    SourceFile.loaded path machine = (sight path machine).load path :=
  (h.load machine).1

theorem Steady.bytes_of_loaded {path : Path} (h : Steady σ path) {machine : σ} {f : SourceFile}
    (hload : SourceFile.loaded path machine = .ok f) :
    (sight path machine).bytes = .ok f.text.toUTF8 := by
  rw [h.loaded_eq] at hload
  exact Sight.bytes_of_load hload

namespace Watcher

/-- What starting to watch a file gives on a machine. -/
def started (path : Path) (session : Session) (machine : σ) : Except CommandError Watcher :=
  ((start path session : ExceptT CommandError (StateM σ) Watcher).run.run machine).1

/-- What a check gives on a machine: its answer, and the watcher after it. -/
def checked (w : Watcher) (machine : σ) (now : Nat) :
    Except CommandError (Option Status) × Watcher :=
  ((w.check now : StateM σ (Except CommandError (Option Status) × Watcher)).run machine).1

theorem checked_eq {w : Watcher} (h : Steady σ w.path) (machine : σ) (now : Nat) :
    w.checked machine now = w.look (sight w.path machine) now :=
  (h.check now machine).1

/-- The watcher after a pass that is run at once. -/
def initialed (w : Watcher) (machine : σ) : Watcher :=
  ((w.initial : StateM σ (Except CommandError Status × Watcher)).run machine).1.2

/-- What happens to a watcher, each time on a machine of its own. -/
inductive Step (σ : Type) where
  | check (machine : σ) (now : Nat)
  | initial (machine : σ)

def Step.machine : Step σ → σ
  | .check machine _ | .initial machine => machine

/-- The mark of a change that a check observes: it finds another time than the one that is
kept, and it can load the file. -/
def observed (w : Watcher) (machine : σ) (now : Nat) : List Mark :=
  if w.isStale (sight w.path machine).modified? && (SourceFile.loaded w.path machine).toBool then
    [.edit now]
  else []

/-- The mark of a pass that a check ran, which its answer tells. -/
def fired : Except CommandError (Option Status) → List Mark
  | .ok (some _) | .error (.analysis _) => [.fired]
  | _ => []

/-- Takes one more step. -/
def advance (course : List Mark × Watcher) : Step σ → List Mark × Watcher
  | .check machine now =>
      (course.1 ++ course.2.observed machine now ++ fired (course.2.checked machine now).1,
        (course.2.checked machine now).2)
  | .initial machine => (course.1, course.2.initialed machine)

/-- The marks of the steps, and the watcher after them. -/
def course (w : Watcher) (steps : List (Step σ)) : List Mark × Watcher :=
  steps.foldl advance ([], w)

theorem course_concat (w : Watcher) (steps : List (Step σ)) (x : Step σ) :
    w.course (steps ++ [x]) = advance (w.course steps) x := by
  rw [course, course, List.foldl_append]
  rfl

/-! ## Polls -/

/-- The answer after a pass over a text: the number of its tokens, or why there is none. -/
def passAnswer (text : String) : Except CommandError (Option Status) :=
  match Token.tokenize text with
  | .ok tokens => .ok (some (.total tokens.size))
  | .error e => .error (.analysis (.scan e))

theorem answer_analyze (s : Store) (text : String) :
    answer (some (s.analyze text)) = passAnswer text := by
  rw [passAnswer, answer, Store.analyze]
  cases Token.tokenize text with
  | error e => rfl
  | ok tokens =>
      show Except.ok (some (Status.total (tokens.map (Match.ofToken s)).size)) = _
      rw [Array.size_map]

@[simp] theorem fired_passAnswer (text : String) : fired (passAnswer text) = [.fired] := by
  rw [passAnswer]
  cases Token.tokenize text <;> rfl

theorem polled_of_not_due {w : Watcher} {now : Nat} (h : w.session.debouncer.due now = false) :
    w.polled now = (.ok none, w) := by
  rw [polled, poll, Session.poll_of_not_due h]
  rfl

theorem polled_of_due {w : Watcher} {now : Nat} (h : w.session.debouncer.due now = true) :
    w.polled now = (passAnswer w.text, { w with
      session := { w.session.record (w.session.store.analyze w.text) with
        debouncer := (w.session.debouncer.take now).2 } }) := by
  rw [← answer_analyze w.session.store, polled, poll, Session.poll_of_due h,
    Session.record_with_debouncer]

/-! ## What a step keeps -/

/-- Text and time are those of the file on this machine. -/
def Holds (w : Watcher) (machine : σ) : Prop :=
  (sight w.path machine).modified? = w.modified? ∧
    (sight w.path machine).bytes = .ok w.text.toUTF8

/-- Two readable versions of a file with the same time are the same, and every one has a
time. That is so where no version takes a time that was there before. -/
structure Dated (path : Path) (machines : List σ) : Prop where
  modified? : ∀ u ∈ machines, ∀ bytes, (sight path u).bytes = .ok bytes →
    (sight path u).modified? ≠ none
  bytes : ∀ u ∈ machines, ∀ v ∈ machines, (sight path u).modified? = (sight path v).modified? →
    ∀ x y, (sight path u).bytes = .ok x → (sight path v).bytes = .ok y → x = y

/-- The watcher is where these marks and machines have brought it. -/
structure Accords (w : Watcher) (path : Path) (store : Store) (origin : Debouncer)
    (marks : List Mark) (machines : List σ) : Prop where
  path_eq : w.path = path
  store_eq : w.session.store = store
  follows : w.session.debouncer.Follows origin marks
  holds : ∃ u ∈ machines, w.Holds u

variable {w : Watcher} {path : Path} {store : Store} {origin : Debouncer} {marks : List Mark}
  {machines : List σ}

theorem Accords.concat (h : w.Accords path store origin marks machines) (machine : σ) :
    w.Accords path store origin marks (machines ++ [machine]) := by
  obtain ⟨u, hu, hholds⟩ := h.holds
  exact ⟨h.path_eq, h.store_eq, h.follows, u, List.mem_append_left _ hu, hholds⟩

theorem text_polled (w : Watcher) (now : Nat) : (w.polled now).2.text = w.text := rfl

theorem Accords.polled (h : w.Accords path store origin marks machines) (now : Nat) :
    (w.polled now).2.Accords path store origin (marks ++ fired (w.polled now).1) machines := by
  cases hdue : w.session.debouncer.due now with
  | false =>
      rw [polled_of_not_due hdue]
      show w.Accords path store origin (marks ++ []) machines
      rw [List.append_nil]
      exact h
  | true =>
      rw [polled_of_due hdue, fired_passAnswer]
      exact ⟨h.path_eq, by simpa using h.store_eq, h.follows.take hdue, h.holds⟩

/-- A pass runs if one is due by the marks, over the text that is held. All of the session
but the timer is then as after any pass over that text. -/
theorem Accords.polled_of_due (h : w.Accords path store origin marks machines) {now : Nat}
    (hdue : origin.Due marks now) : (w.polled now).1 = passAnswer w.text ∧
      ∃ d, (w.polled now).2.session =
        { w.session.record (store.analyze w.text) with debouncer := d } := by
  rw [Watcher.polled_of_due ((h.follows.due_iff now).2 hdue), h.store_eq]
  exact ⟨rfl, _, rfl⟩

theorem Accords.polled_of_not_due (h : w.Accords path store origin marks machines) {now : Nat}
    (hdue : ¬origin.Due marks now) : w.polled now = (.ok none, w) := by
  rw [← h.follows.due_iff, Bool.not_eq_true] at hdue
  exact Watcher.polled_of_not_due hdue

/-- A check that finds a change which cannot be loaded leaves everything as it is. -/
theorem checked_of_refused (hsteady : Steady σ w.path) {machine : σ} {e : SourceError}
    (hstale : w.isStale (sight w.path machine).modified? = true)
    (hload : SourceFile.loaded w.path machine = .error e) (now : Nat) :
    w.checked machine now = (.error (.source e), w) ∧ w.observed machine now = [] := by
  refine ⟨?_, by rw [observed, hload, hstale]; rfl⟩
  rw [checked_eq hsteady, look, if_pos hstale, ← hsteady.loaded_eq, hload, reread]

/-- A file that has the time which is kept is the version that was taken in last. -/
theorem Accords.text_eq_of_current (h : w.Accords path store origin marks machines)
    (hsteady : Steady σ path) {machine : σ} {f : SourceFile}
    (hcurrent : w.isStale (sight path machine).modified? = false)
    (hload : SourceFile.loaded path machine = .ok f)
    (hdated : Dated path (machines ++ [machine])) : w.text = f.text := by
  obtain rfl := h.path_eq
  have hmem : machine ∈ machines ++ [machine] := by simp
  have hbytes := hsteady.bytes_of_loaded hload
  have hsame : (sight w.path machine).modified? = w.modified? :=
    (not_isStale_iff.1 hcurrent).resolve_left (hdated.modified? machine hmem _ hbytes)
  obtain ⟨u, hu, hmodified, hheld⟩ := h.holds
  have hutf8 := hdated.bytes u (List.mem_append_left _ hu) machine hmem
    (hmodified.trans hsame.symm) _ _ hheld hbytes
  exact String.toByteArray_inj.1 hutf8

/-- A check that does not fail to load is a poll of a watcher that has taken in the file
as it is: if another time was found, or else the file is gone or has not changed. -/
theorem Accords.takesIn (h : w.Accords path store origin marks machines)
    (hsteady : Steady σ path) (machine : σ) (now : Nat)
    (hload : w.isStale (sight path machine).modified? = true →
      ∃ f, SourceFile.loaded path machine = .ok f) :
    ∃ w' : Watcher, w.checked machine now = w'.polled now ∧
      w'.Accords path store origin (marks ++ w.observed machine now) (machines ++ [machine]) ∧
      (∃ d, w'.session = { w.session with debouncer := d }) ∧
      ∀ f, SourceFile.loaded path machine = .ok f → Dated path (machines ++ [machine]) →
        w'.text = f.text := by
  obtain rfl := h.path_eq
  rw [checked_eq hsteady, look, ← hsteady.loaded_eq, observed]
  cases hstale : w.isStale (sight w.path machine).modified? with
  | true =>
      obtain ⟨f, hf⟩ := hload hstale
      refine ⟨w.accept (sight w.path machine).modified? f.text now, ?_, ?_, ⟨_, rfl⟩, ?_⟩
      · rw [if_pos rfl, hf, reread]
      · rw [hf]
        exact ⟨rfl, h.store_eq, h.follows.edit now, machine, by simp, rfl,
          hsteady.bytes_of_loaded hf⟩
      · intro f' hf' _
        rw [hf, Except.ok.injEq] at hf'
        rw [← hf']
        rfl
  | false =>
      refine ⟨w, by rw [if_neg Bool.false_ne_true], ?_, ⟨_, rfl⟩, ?_⟩
      · rw [Bool.false_and, if_neg Bool.false_ne_true, List.append_nil]
        exact h.concat machine
      · intro f hf hdated
        exact h.text_eq_of_current hsteady hstale hf hdated

theorem Accords.check (h : w.Accords path store origin marks machines)
    (hsteady : Steady σ path) (machine : σ) (now : Nat) :
    (w.checked machine now).2.Accords path store origin
      (marks ++ w.observed machine now ++ fired (w.checked machine now).1)
      (machines ++ [machine]) := by
  by_cases hload : w.isStale (sight path machine).modified? = true →
      ∃ f, SourceFile.loaded path machine = .ok f
  · obtain ⟨w', hchecked, hafter, -, -⟩ := h.takesIn hsteady machine now hload
    rw [hchecked]
    exact hafter.polled now
  · rw [Classical.not_imp] at hload
    obtain ⟨hstale, hnone⟩ := hload
    obtain rfl := h.path_eq
    cases hloaded : SourceFile.loaded w.path machine with
    | ok f => exact absurd ⟨f, hloaded⟩ hnone
    | error e =>
        obtain ⟨hchecked, hobserved⟩ := checked_of_refused hsteady hstale hloaded now
        rw [hchecked, hobserved]
        show w.Accords w.path store origin (marks ++ [] ++ []) (machines ++ [machine])
        rw [List.append_nil, List.append_nil]
        exact h.concat machine

/-- A pass that is run at once touches neither the timer nor what is held of the file. -/
theorem Accords.initial (h : w.Accords path store origin marks machines)
    (hsteady : Steady σ path) (machine : σ) :
    (w.initialed machine).Accords path store origin marks (machines ++ [machine]) := by
  have hafter : w.initialed machine = w.analyzeNow.2 :=
    congrArg Prod.snd (hsteady.initial w machine).1
  obtain ⟨u, hu, hholds⟩ := (h.concat machine).holds
  rw [hafter]
  refine ⟨h.path_eq, ?_, ?_, u, hu, hholds⟩
  · simpa [analyzeNow, Session.analyzeNow] using h.store_eq
  · simpa [analyzeNow, Session.analyzeNow] using h.follows

theorem Accords.advance (h : w.Accords path store origin marks machines)
    (hsteady : Steady σ path) (x : Step σ) :
    (advance (marks, w) x).2.Accords path store origin (Watcher.advance (marks, w) x).1
      (machines ++ [x.machine]) := by
  cases x with
  | check machine now => exact h.check hsteady machine now
  | initial machine => exact h.initial hsteady machine

/-! ## Courses -/

/-- Watching starts on a file that can be loaded, with its text and its time. -/
theorem started_of_loaded (hsteady : Steady σ path) {m₀ : σ} {f : SourceFile}
    (hload : SourceFile.loaded path m₀ = .ok f) (session : Session) :
    ∃ w, started path session m₀ = .ok w ∧
      w.Accords path session.store session.debouncer [] [m₀] := by
  refine ⟨⟨path, session, (sight path m₀).modified?, f.text⟩, ?_, rfl, rfl, .start _, m₀,
    by simp, rfl, hsteady.bytes_of_loaded hload⟩
  rw [hsteady.loaded_eq] at hload
  have hstart := (hsteady.start session m₀).1
  simp only [hload] at hstart
  exact hstart

theorem accords_course (hsteady : Steady σ path) {m₀ : σ}
    (h : w.Accords path store origin [] [m₀]) (steps : List (Step σ)) :
    (w.course steps).2.Accords path store origin (w.course steps).1
      (m₀ :: steps.map Step.machine) := by
  induction steps using List.reverseRecOn with
  | nil => exact h
  | append_singleton steps x ih =>
      rw [course_concat, List.map_append, List.map_singleton, ← List.cons_append]
      exact ih.advance hsteady x

/-- What a watcher is after any course, and what the next check does. Text and time are those
of one version that was there. A change that cannot be loaded is the check's answer and leaves
the watcher as it is, so the next check finds it again; what can be loaded is the text after
the check. A check that does not fail to load runs a pass over the text that it then holds
exactly when a change was observed after the last pass that a check ran, and the delay after
the last such change is over; or before there was any, when an edit is due that the session
came with. -/
theorem course_law (hsteady : Steady σ path) {m₀ : σ} {f₀ : SourceFile}
    (hload : SourceFile.loaded path m₀ = .ok f₀) (session : Session) :
    ∃ w₀, started path session m₀ = .ok w₀ ∧ ∀ steps : List (Step σ),
      let w := (w₀.course steps).2
      w.path = path ∧
      (∃ u ∈ m₀ :: steps.map Step.machine,
        (sight path u).modified? = w.modified? ∧ (sight path u).bytes = .ok w.text.toUTF8) ∧
      ∀ machine now,
        let seen := (w₀.course steps).1 ++ w.observed machine now
        let answer := (w.checked machine now).1
        let after := (w.checked machine now).2
        let changed := w.isStale (sight path machine).modified? = true
        let due := (Waiting seen ∧
            ∃ t, lastEdit? seen = some t ∧ t + session.debouncer.delay ≤ now) ∨
          (seen = [] ∧ session.debouncer.due now = true)
        (∀ e, changed → SourceFile.loaded path machine = .error e →
          answer = .error (.source e) ∧ after = w) ∧
        (∀ f, Dated path (m₀ :: steps.map Step.machine ++ [machine]) →
          SourceFile.loaded path machine = .ok f → after.text = f.text) ∧
        ((changed → ∃ f, SourceFile.loaded path machine = .ok f) →
          (due → answer = passAnswer after.text ∧
            ∃ d, after.session =
              { w.session.record (session.store.analyze after.text) with debouncer := d }) ∧
          (¬due → answer = .ok none ∧
            ∃ d, after.session = { w.session with debouncer := d })) := by
  obtain ⟨w₀, hstarted, hbegin⟩ := started_of_loaded hsteady hload session
  refine ⟨w₀, hstarted, ?_⟩
  intro steps w
  have h := accords_course hsteady hbegin steps
  refine ⟨h.path_eq, ?_, ?_⟩
  · obtain ⟨u, hu, hholds⟩ := h.holds
    rw [Holds, h.path_eq] at hholds
    exact ⟨u, hu, hholds⟩
  intro machine now seen answer after changed due
  refine ⟨?_, ?_, ?_⟩
  · intro e hchanged herror
    obtain ⟨hchecked, -⟩ := checked_of_refused (h.path_eq ▸ hsteady) (h.path_eq ▸ hchanged)
      (h.path_eq ▸ herror) now
    exact ⟨congrArg Prod.fst hchecked, congrArg Prod.snd hchecked⟩
  · intro f hdated hf
    obtain ⟨w', hchecked, hafter, -, htext⟩ := h.takesIn hsteady machine now fun _ => ⟨f, hf⟩
    calc
      after.text = (w'.polled now).2.text := congrArg (·.2.text) hchecked
      _ = w'.text := text_polled w' now
      _ = f.text := htext f hf hdated
  · intro hloads
    obtain ⟨w', hchecked, hafter, ⟨d, hsession⟩, -⟩ := h.takesIn hsteady machine now hloads
    have hanswer : answer = (w'.polled now).1 := congrArg Prod.fst hchecked
    have hafter_eq : after = (w'.polled now).2 := congrArg Prod.snd hchecked
    rw [hanswer, hafter_eq, text_polled]
    refine ⟨?_, ?_⟩
    · intro hdue
      obtain ⟨hpass, d', hresult⟩ := hafter.polled_of_due hdue
      rw [hsession, Session.record_with_debouncer] at hresult
      exact ⟨hpass, d', hresult⟩
    · intro hnot
      rw [hafter.polled_of_not_due hnot]
      exact ⟨rfl, d, hsession⟩

/-- A version that is no text stands between two that are. The check that sees it leaves
the watcher alone, and without a delay the next one runs a pass over the version after it. -/
theorem course_law_replaced :
    ∃ (m₀ broken m : Machine) (w₀ : Watcher),
      sight ⟨"a.py"⟩ m₀ = ⟨some ⟨1, 0⟩, .ok 5, .ok "x = 1".toUTF8⟩ ∧
      sight ⟨"a.py"⟩ broken = ⟨some ⟨2, 0⟩, .ok 1, .ok ⟨#[0xFF]⟩⟩ ∧
      sight ⟨"a.py"⟩ m = ⟨some ⟨3, 0⟩, .ok 10, .ok "if x: pass".toUTF8⟩ ∧
      started ⟨"a.py"⟩ (.start .empty ⟨0, none⟩) m₀ = .ok w₀ ∧
      w₀.checked broken 5 = (.error (.source (.invalidEncoding ⟨"a.py"⟩)), w₀) ∧
      ((w₀.course [.check broken 5]).2.checked m 10).1 = .ok (some (.total 4)) ∧
      ((w₀.course [.check broken 5]).2.checked m 10).2.text = "if x: pass" := by
  have hmachine : ∀ bytes t, ∃ m : Machine,
      sight ⟨"a.py"⟩ m = ⟨some ⟨t, 0⟩, .ok bytes.size, .ok bytes⟩ := fun bytes t =>
    ⟨⟨(FileTree.empty []).put ["a.py"] (.file bytes ⟨t, 0⟩), #[], ⟨t, 0⟩⟩, rfl⟩
  obtain ⟨m₀, hm₀⟩ := hmachine "x = 1".toUTF8 1
  obtain ⟨broken, hbroken⟩ := hmachine ⟨#[0xFF]⟩ 2
  obtain ⟨m, hm⟩ := hmachine "if x: pass".toUTF8 3
  have hsteady := Machine.steady ⟨"a.py"⟩
  have hload₀ : SourceFile.loaded ⟨"a.py"⟩ m₀ = .ok (.ofText ⟨"a.py"⟩ "x = 1" 5) := by
    rw [hsteady.loaded_eq, hm₀]
    rfl
  have hrefused : SourceFile.loaded ⟨"a.py"⟩ broken = .error (.invalidEncoding ⟨"a.py"⟩) := by
    rw [hsteady.loaded_eq, hbroken]
    rfl
  have hload : SourceFile.loaded ⟨"a.py"⟩ m = .ok (.ofText ⟨"a.py"⟩ "if x: pass" 10) := by
    rw [hsteady.loaded_eq, hm]
    rfl
  obtain ⟨w₀, hstarted, hlaw⟩ := course_law hsteady hload₀ (.start .empty ⟨0, none⟩)
  refine ⟨m₀, broken, m, w₀, hm₀, hbroken, hm, hstarted, ?_, ?_⟩
  · obtain ⟨-, ⟨u, hu, hmodified, -⟩, hnext⟩ := hlaw []
    obtain rfl : u = m₀ := by simpa using hu
    have hchanged : w₀.isStale (sight ⟨"a.py"⟩ broken).modified? = true := by
      rw [hm₀] at hmodified
      rw [hbroken, isStale_iff]
      exact ⟨_, rfl, by rw [show w₀.modified? = _ from hmodified.symm]; decide⟩
    obtain ⟨hanswer, hafter⟩ := (hnext broken 5).1 _ hchanged hrefused
    exact Prod.ext hanswer hafter
  · obtain ⟨hpath, ⟨u, hu, hmodified, -⟩, hnext⟩ := hlaw [.check broken 5]
    obtain ⟨-, htext, hpass⟩ := hnext m 10
    have hchanged :
        (w₀.course [.check broken 5]).2.isStale (sight ⟨"a.py"⟩ m).modified? = true := by
      rw [hm, isStale_iff, ← hmodified]
      have hu' : u = m₀ ∨ u = broken := by simpa [Step.machine] using hu
      rcases hu' with rfl | rfl
      · exact ⟨_, rfl, by rw [hm₀]; decide⟩
      · exact ⟨_, rfl, by rw [hbroken]; decide⟩
    have hobserved : (w₀.course [.check broken 5]).2.observed m 10 = [.edit 10] := by
      rw [observed, hpath, hchanged, hload]
      rfl
    have hdated : Dated ⟨"a.py"⟩ [m₀, broken, m] := by
      refine ⟨?_, ?_⟩
      · simp [hm₀, hbroken, hm]
      · simp [hm₀, hbroken, hm]
    have hheld := htext _ hdated hload
    rw [hobserved] at hpass
    obtain ⟨hanswer, -⟩ := (hpass fun _ => ⟨_, hload⟩).1 <| .inl
      ⟨Debouncer.waiting_concat_edit _ 10, 10, Debouncer.lastEdit?_concat_edit _ 10, Nat.le_refl 10⟩
    rw [hanswer, hheld]
    exact ⟨by decide +kernel, rfl⟩

end Watcher

end Glossary
