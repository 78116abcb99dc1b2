import Glossary.Host.FileTree
import Glossary.Watcher

/-!
# A file as it is seen at one time

A check of a watcher asks its machine several things about one file: when it was
changed, how large it is, and what it holds. On a steady machine nothing that is
asked or told changes what is seen of the file, so a check sees one state of it.
Then loading a file, starting to watch it and checking it are functions of what is
seen alone; what the machine does with the events that it is told is no matter.

## Main results

* `Sees.bind`, `Sees.bindExcept` — computations that depend on a sight alone.
* `Machine.steady` — the machine in memory is steady.
* `Steady.load` — what loading a file gives.
* `Steady.start`, `Steady.check` — what a watcher starts with, and what a check does.
-/

namespace Glossary

theorem Except.bind_eq_ok_iff {ε α β : Type} {x : Except ε α} {k : α → Except ε β} {b : β} :
    x >>= k = .ok b ↔ ∃ a, x = .ok a ∧ k a = .ok b := by
  cases x with
  | error e => simp [Bind.bind, Except.bind]
  | ok a => simp [Bind.bind, Except.bind]

theorem Except.mapError_eq_ok_iff {ε ε' α : Type} {x : Except ε α} {f : ε → ε'} {a : α} :
    x.mapError f = .ok a ↔ x = .ok a := by
  cases x with
  | error e => exact ⟨nofun, nofun⟩
  | ok b =>
      constructor
      · rintro ⟨⟩
        rfl
      · rintro ⟨⟩
        rfl

/-- What a machine answers about one file. -/
structure Sight where
  modified? : Option Timestamp
  size : Except HostError Nat
  bytes : Except HostError ByteArray

namespace Sight

/-- The source that the file gives. -/
def load (path : Path) (v : Sight) : Except SourceError SourceFile := do
  let size ← v.size.mapError (SourceError.ofHost path)
  SourceFile.checkSize size
  let bytes ← v.bytes.mapError (SourceError.ofHost path)
  SourceFile.ofBytes path size bytes

/-- The text of a source is what the bytes of the file say. -/
theorem bytes_of_load {path : Path} {v : Sight} {f : SourceFile} (h : v.load path = .ok f) :
    v.bytes = .ok f.text.toUTF8 := by
  obtain ⟨size, -, h⟩ := Except.bind_eq_ok_iff.1 h
  obtain ⟨-, -, h⟩ := Except.bind_eq_ok_iff.1 h
  obtain ⟨bytes, hbytes, h⟩ := Except.bind_eq_ok_iff.1 h
  rw [Except.mapError_eq_ok_iff] at hbytes
  obtain ⟨text, rfl, rfl⟩ := SourceFile.ofBytes_eq_ok_iff.1 h
  exact hbytes

end Sight

variable {σ : Type}

section Seeing

variable [Host (StateM σ)]

/-- What a machine answers about a file when it is asked now. -/
def sight (path : Path) (machine : σ) : Sight :=
  ⟨((Host.modified? path : StateM σ (Option Timestamp)).run machine).1,
    ((Host.size path : StateM σ (Except HostError Nat)).run machine).1,
    ((Host.read path : StateM σ (Except HostError ByteArray)).run machine).1⟩

/-- The answer of a computation depends on what is seen of a file, which it leaves as it is. -/
def Sees {α : Type} (path : Path) (x : StateM σ α) (answer : Sight → α) : Prop :=
  ∀ machine, (x.run machine).1 = answer (sight path machine) ∧
    sight path (x.run machine).2 = sight path machine

variable {α β ε : Type} {path : Path}

theorem Sees.pure (a : α) : Sees (σ := σ) path (Pure.pure a) fun _ => a :=
  fun _ => ⟨rfl, rfl⟩

theorem Sees.bind {x : StateM σ α} {k : α → StateM σ β} {f : Sight → α} {g : α → Sight → β}
    (hx : Sees path x f) (hk : ∀ a, Sees path (k a) (g a)) :
    Sees path (x >>= k) fun v => g (f v) v := by
  intro machine
  obtain ⟨hx₁, hx₂⟩ := hx machine
  obtain ⟨hk₁, hk₂⟩ := hk (x.run machine).1 (x.run machine).2
  rw [hx₂] at hk₁ hk₂
  refine ⟨?_, hk₂⟩
  show _ = g (f (sight path machine)) (sight path machine)
  rw [← hx₁]
  exact hk₁

/-- A computation that may fail goes on only after a success. -/
theorem Sees.bindExcept {x : ExceptT ε (StateM σ) α} {k : α → ExceptT ε (StateM σ) β}
    {f : Sight → Except ε α} {g : α → Sight → Except ε β} (hx : Sees path x.run f)
    (hk : ∀ a, Sees path (k a).run (g a)) :
    Sees path (x >>= k).run fun v => f v >>= fun a => g a v := by
  have hrest : ∀ r : Except ε α, Sees path (ExceptT.bindCont k r : StateM σ (Except ε β))
      fun v => r >>= fun a => g a v := by
    intro r
    cases r with
    | ok a => exact hk a
    | error e => exact .pure (Except.error e)
  exact hx.bind hrest

/-- A failure may be told in other words. -/
theorem Sees.adapt {ε' : Type} {x : ExceptT ε (StateM σ) α} {f : Sight → Except ε α}
    (h : Sees path x.run f) (asError : ε → ε') :
    Sees path (x.adapt asError).run fun v => (f v).mapError asError :=
  fun machine => ⟨congrArg (·.mapError asError) (h machine).1, (h machine).2⟩

theorem Sees.attempt {request : StateM σ (Except HostError α)} {f : Sight → Except HostError α}
    (h : Sees path request f) (asError : HostError → ε) :
    Sees path (Host.attempt asError request).run fun v => (f v).mapError asError :=
  h.bind fun r => .pure (r.mapError asError)

/-- Nothing that a machine is asked of a file, and nothing that it is told, changes
what is seen of the file. -/
structure Steady (σ : Type) [Host (StateM σ)] (path : Path) : Prop where
  modified? : Sees (σ := σ) path (Host.modified? path) (·.modified?)
  size : Sees (σ := σ) path (Host.size path) (·.size)
  read : Sees (σ := σ) path (Host.read path) (·.bytes)
  tell : ∀ e, Sees (σ := σ) path (Host.tell e) fun _ => ()

end Seeing

/-- The machine in memory shows its file tree, which looking and telling leave alone. -/
theorem Machine.steady (path : Path) : Steady Machine path :=
  ⟨fun _ => ⟨rfl, rfl⟩, fun _ => ⟨rfl, rfl⟩, fun _ => ⟨rfl, rfl⟩, fun _ _ => ⟨rfl, rfl⟩⟩

namespace Steady

variable [Host (StateM σ)] {path : Path}

theorem tellAll (h : Steady σ path) (events : List Event) :
    Sees (σ := σ) path (Host.tellAll events) fun _ => () := by
  induction events with
  | nil => exact .pure ()
  | cons e events ih => exact (h.tell e).bind fun _ => ih

theorem tellExcept (h : Steady σ path) {ε : Type} (e : Event) :
    Sees path (Host.tell e : ExceptT ε (StateM σ) Unit).run fun _ => .ok () :=
  (h.tell e).bind fun _ => .pure (Except.ok ())

/-- A failure is reported, and then it is the answer. -/
theorem refuse (h : Steady σ path) {α ε : Type} (event : Event) (e : ε) :
    Sees path (do Host.tell event; throw e : ExceptT ε (StateM σ) α).run fun _ => .error e :=
  (h.tellExcept event).bindExcept fun _ => .pure (Except.error e)

/-- Loading a file gives the source of what is seen. -/
theorem load (h : Steady σ path) :
    Sees path (SourceFile.load path : ExceptT SourceError (StateM σ) SourceFile).run
      (Sight.load path) := by
  unfold SourceFile.load
  refine (h.tellExcept _).bindExcept fun _ =>
    (h.size.attempt (SourceError.ofHost path)).bindExcept (g := fun size v => do
      SourceFile.checkSize size
      let bytes ← v.bytes.mapError (SourceError.ofHost path)
      SourceFile.ofBytes path size bytes) fun size => ?_
  cases SourceFile.checkSize size with
  | error e => exact h.refuse _ e
  | ok _ =>
      refine (h.read.attempt (SourceError.ofHost path)).bindExcept fun bytes => ?_
      cases SourceFile.ofBytes path size bytes with
      | error e => exact h.refuse _ e
      | ok f => exact .pure (Except.ok f)

end Steady

/-! ## Watchers -/

namespace Watcher

/-- What is told of a pass that a poll ran, or of there being none. -/
def answer : Option (Except AnalysisError Analysis) → Except CommandError (Option Status)
  | none => .ok none
  | some outcome => (outcome.map fun a => some a.status).mapError .analysis

/-- A poll, with what is told of it. -/
def polled (w : Watcher) (now : Nat) : Except CommandError (Option Status) × Watcher :=
  (answer (w.poll now).1, (w.poll now).2)

/-- What comes of a file that is read again. -/
def reread (w : Watcher) (seen? : Option Timestamp) (now : Nat) :
    Except SourceError SourceFile → Except CommandError (Option Status) × Watcher
  | .error e => (.error (.source e), w)
  | .ok f => (w.accept seen? f.text now).polled now

/-- A check by what it sees of the file. -/
def look (w : Watcher) (v : Sight) (now : Nat) : Except CommandError (Option Status) × Watcher :=
  if w.isStale v.modified? then w.reread v.modified? now (v.load w.path) else w.polled now

end Watcher

namespace Steady

variable [Host (StateM σ)]

/-- Watching starts with the file as it is seen, if it can be loaded. -/
theorem start {path : Path} (h : Steady σ path) (session : Session) :
    Sees path (Watcher.start path session : ExceptT CommandError (StateM σ) Watcher).run fun v =>
      (v.load path).mapError CommandError.source >>= fun f =>
        .ok ⟨path, session, v.modified?, f.text⟩ := by
  have hmodified : Sees path (Host.modified? path : ExceptT CommandError (StateM σ) _).run
      fun v => .ok v.modified? :=
    h.modified?.bind fun t => .pure (Except.ok t)
  refine (h.load.adapt CommandError.source).bindExcept fun f => ?_
  exact hmodified.bindExcept (g := fun seen? _ => Except.ok (Watcher.mk path session seen? f.text))
    fun seen? => .pure (Except.ok (Watcher.mk path session seen? f.text))

theorem pollStatus {path : Path} (h : Steady σ path) (w : Watcher) (now : Nat) :
    Sees (σ := σ) path (w.pollStatus now) fun _ => w.polled now := by
  unfold Watcher.pollStatus Watcher.polled
  rcases w.poll now with ⟨_ | outcome, after⟩
  · exact .pure _
  · exact (h.tellAll _).bind fun _ => .pure _

/-- A pass that is run at once does not look at the file. -/
theorem initial {path : Path} (h : Steady σ path) (w : Watcher) :
    Sees (σ := σ) path w.initial fun _ =>
      ((w.analyzeNow.1.map Analysis.status).mapError .analysis, w.analyzeNow.2) :=
  (h.tellAll _).bind fun _ => .pure _

theorem check {w : Watcher} (h : Steady σ w.path) (now : Nat) :
    Sees (σ := σ) w.path (w.check now) fun v => w.look v now := by
  unfold Watcher.check Watcher.look
  refine h.modified?.bind (g := fun seen? v =>
    if w.isStale seen? then w.reread seen? now (v.load w.path) else w.polled now) fun seen? => ?_
  cases w.isStale seen? with
  | false => exact h.pollStatus w now
  | true =>
      refine h.load.bind (g := fun r _ => w.reread seen? now r) fun r => ?_
      cases r with
      | error e => exact .pure (w.reread seen? now (.error e))
      | ok f => exact (h.tell _).bind fun _ => h.pollStatus _ now

end Steady

end Glossary
