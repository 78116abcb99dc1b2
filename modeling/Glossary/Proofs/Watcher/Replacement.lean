import Glossary.Proofs.Watcher.Sight

/-!
# A file that is replaced while it is watched

Looking at a file takes several requests, and between any two of them another program
may put a new version in its place. A timeline is a machine on which this happens: it
has a version of the file for every moment, and each request about the file is answered
by the version of its own moment. As any version may follow any other, the timelines are
all the ways in which replacements fall between requests.

A watcher that is checked asks for the time first and then for the contents. A version
that comes between the two is read under the time of the one before it, so the next check
finds another time and reads again. A watcher that starts asks the other way round. A
version that comes between these two requests gives its time to the contents of the one
before it, and no check will read it.

## Main results

* `Watcher.start_run_iff`, `Watcher.check_run` — what starting and checking see, by the moments
  of their requests.
* `Watcher.Traced.check` — where text and time of a watcher come from.
* `Watcher.text_settles_iff` — when a watcher comes to the contents that stay.
* `Watcher.not_text_settles` — it does not always.
-/

namespace Glossary

/-- A file that others replace: what is there at each moment, and the moment of the next
request about it. -/
structure Timeline where
  version : Nat → Sight
  moment : Nat

namespace Timeline

/-- Answers a request about the file. The next request comes at a later moment. -/
def ask {α : Type} (answer : Sight → α) : StateM Timeline α := fun s =>
  (answer (s.version s.moment), ⟨s.version, s.moment + 1⟩)

/-- The file has every path. It can be looked at, and nothing else. -/
instance : Host (StateM Timeline) where
  size _ := ask (·.size)
  modified? _ := ask (·.modified?)
  read _ := ask (·.bytes)
  write _ _ := pure (.error .permissionDenied)
  isFolder _ := pure false
  makeFolder _ := pure (.error .permissionDenied)
  tell _ := pure ()

/-- What is seen of the file by requests for its time, its size and its contents at these
moments. -/
def seen (version : Nat → Sight) (time size contents : Nat) : Sight :=
  ⟨(version time).modified?, (version size).size, (version contents).bytes⟩

/-- A version that takes the place of another has a time that no version had before, and no file
can be read that has no time. Where there is no file, there is no time either. -/
structure Redated (version : Nat → Sight) : Prop where
  modified?_ne : ∀ n bytes, (version n).bytes = .ok bytes → (version n).modified? ≠ none
  fresh : ∀ n, version (n + 1) ≠ version n → (version (n + 1)).modified? ≠ none →
    ∀ m ≤ n, (version m).modified? ≠ (version (n + 1)).modified?

/-- Between two moments with the same time nothing was replaced. -/
theorem Redated.version_eq {version : Nat → Sight} (h : Redated version) {m n : Nat} (hle : m ≤ n)
    (hsome : (version n).modified? ≠ none)
    (hsame : (version m).modified? = (version n).modified?) :
    ∀ k, m ≤ k → k ≤ n → version k = version n := by
  induction hle with
  | refl =>
      intro k hmk hkm
      rw [Nat.le_antisymm hkm hmk]
  | @step n hle ih =>
      -- a version that is new at the end would have brought a new time
      have hkept : version (n + 1) = version n :=
        Classical.byContradiction fun hnew => h.fresh n hnew hsome m hle hsame
      intro k hmk hkn
      rcases Nat.lt_or_eq_of_le hkn with hlt | rfl
      · rw [hkept] at hsome hsame ⊢
        exact ih hsome hsame k hmk (Nat.le_of_lt_succ hlt)
      · rfl

/-- The text of a source is what the contents say. -/
theorem bytes_of_load_seen {path : Path} {version : Nat → Sight} {time size contents : Nat}
    {f : SourceFile} (h : (seen version time size contents).load path = .ok f) :
    (version contents).bytes = .ok f.text.toUTF8 :=
  Sight.bytes_of_load (v := seen version time size contents) h

/-! ## Requests by their moments -/

/-- Nothing is asked of the file when events are told. -/
theorem tellAll_run (events : List Event) (s : Timeline) :
    (Host.tellAll events : StateM Timeline Unit).run s = ((), s) := by
  induction events with
  | nil => rfl
  | cons e events ih => exact ih

section Requests

variable {α β ε : Type} {version : Nat → Sight} {n : Nat} {answer : Sight → Except HostError α}

/-- After a request that is answered the computation goes on at the next moment. -/
theorem attempt_ok {a : α} (h : answer (version n) = .ok a) (asError : HostError → ε)
    (k : α → ExceptT ε (StateM Timeline) β) :
    (Host.attempt asError (ask answer) >>= k).run.run ⟨version, n⟩ =
      (k a).run.run ⟨version, n + 1⟩ := by
  show (ExceptT.bindCont k ((answer (version n)).mapError asError) :
    StateM Timeline (Except ε β)).run ⟨version, n + 1⟩ = _
  rw [h]
  rfl

/-- A request that is refused ends it. -/
theorem attempt_error {e : HostError} (h : answer (version n) = .error e)
    (asError : HostError → ε) (k : α → ExceptT ε (StateM Timeline) β) :
    (Host.attempt asError (ask answer) >>= k).run.run ⟨version, n⟩ =
      (.error (asError e), ⟨version, n + 1⟩) := by
  show (ExceptT.bindCont k ((answer (version n)).mapError asError) :
    StateM Timeline (Except ε β)).run ⟨version, n + 1⟩ = _
  rw [h]
  rfl

end Requests

/-- Loading gives what its requests see. It is over after the one for the size or the one for the
contents, and a source needs both. -/
theorem load_run (path : Path) (version : Nat → Sight) (n time : Nat) :
    ∃ later, n < later ∧
      (SourceFile.load path : ExceptT SourceError (StateM Timeline) SourceFile).run.run
        ⟨version, n⟩ = ((seen version time n (n + 1)).load path, ⟨version, later⟩) ∧
      ∀ f, (seen version time n (n + 1)).load path = .ok f → later = n + 2 := by
  cases hsize : (version n).size with
  | error e =>
      have hload : (seen version time n (n + 1)).load path =
          .error (SourceError.ofHost path e) := by
        rw [Sight.load, seen, hsize]
        rfl
      rw [hload]
      exact ⟨n + 1, Nat.lt_succ_self n, attempt_error hsize _ _, nofun⟩
  | ok size =>
      have hload : (seen version time n (n + 1)).load path = SourceFile.checkSize size >>= fun _ =>
          (version (n + 1)).bytes.mapError (SourceError.ofHost path) >>=
            SourceFile.ofBytes path size := by
        rw [Sight.load, seen, hsize]
        rfl
      rw [hload]
      cases hcheck : SourceFile.checkSize size with
      | error e =>
          refine ⟨n + 1, Nat.lt_succ_self n, (attempt_ok hsize _ _).trans ?_, nofun⟩
          simp only [hcheck]
          rfl
      | ok _ =>
          refine ⟨n + 2, by omega, (attempt_ok hsize _ _).trans ?_, fun _ _ => rfl⟩
          simp only [hcheck]
          cases hbytes : (version (n + 1)).bytes with
          | error e => exact attempt_error hbytes _ _
          | ok bytes =>
              refine (attempt_ok hbytes _ _).trans ?_
              show _ = (SourceFile.ofBytes path size bytes, _)
              cases SourceFile.ofBytes path size bytes <;> rfl

end Timeline

open Timeline

/-! ## Watchers -/

namespace Watcher

/-- A poll asks nothing of the file. -/
theorem pollStatus_run (w : Watcher) (now : Nat) (s : Timeline) :
    (w.pollStatus now : StateM Timeline _).run s = (w.polled now, s) := by
  unfold pollStatus polled
  rcases w.poll now with ⟨_ | outcome, after⟩
  · rfl
  · show (Host.tellAll _ >>= fun _ => pure _ : StateM Timeline _).run s = _
    rw [StateT.run_bind, tellAll_run]
    rfl

/-- Watching that starts asks for the size, the contents and the time, in this order. -/
theorem start_run_iff {path : Path} {session : Session} {version : Nat → Sight} {n : Nat}
    {w : Watcher} {s : Timeline} :
    (start path session : ExceptT CommandError (StateM Timeline) Watcher).run.run ⟨version, n⟩ =
        (.ok w, s) ↔
      ∃ f, (seen version (n + 2) n (n + 1)).load path = .ok f ∧
        w = ⟨path, session, (version (n + 2)).modified?, f.text⟩ ∧ s = ⟨version, n + 3⟩ := by
  obtain ⟨later, -, hload, hsource⟩ := load_run path version n (n + 2)
  unfold start
  rw [ExceptT.run_bind, StateT.run_bind, ExceptT.run_adapt, StateT.run_map, hload]
  cases hf : (seen version (n + 2) n (n + 1)).load path with
  | error e =>
      constructor
      · intro h
        cases h
      · rintro ⟨f, hf', -⟩
        cases hf'
  | ok f =>
      -- after size and contents, the time is asked for
      obtain rfl := hsource f hf
      constructor
      · intro h
        cases h
        exact ⟨f, rfl, rfl, rfl⟩
      · rintro ⟨f', hf', rfl, rfl⟩
        cases hf'
        rfl

/-- A check asks for the time, and then for size and contents if the time is not the one that is
kept. -/
theorem check_run (w : Watcher) (version : Nat → Sight) (n now : Nat) :
    ∃ later, n < later ∧ (w.check now : StateM Timeline _).run ⟨version, n⟩ =
        (w.look (seen version n (n + 1) (n + 2)) now, ⟨version, later⟩) ∧
      ∀ f, w.isStale (version n).modified? = true →
        (seen version n (n + 1) (n + 2)).load w.path = .ok f → later = n + 3 := by
  unfold check look
  show ∃ later, n < later ∧
    (if w.isStale (version n).modified? then _ else _ : StateM Timeline _).run ⟨version, n + 1⟩ =
      (if w.isStale (version n).modified? then _ else _, _) ∧ _
  cases hstale : w.isStale (version n).modified? with
  | false => exact ⟨n + 1, Nat.lt_succ_self n, pollStatus_run w now _, nofun⟩
  | true =>
      obtain ⟨later, hlater, hload, hsource⟩ := load_run w.path version (n + 1) n
      refine ⟨later, by omega, ?_, fun f _ => hsource f⟩
      rw [if_pos rfl, if_pos rfl, StateT.run_bind, hload]
      cases (seen version n (n + 1) (n + 2)).load w.path with
      | error e => rfl
      | ok f => exact pollStatus_run _ now _

/-! ## Where text and time come from -/

/-- What a check does with what it sees: it takes in text and time if it sees another time and can
load the file, and else it keeps both. -/
theorem look_cases (w : Watcher) (v : Sight) (now : Nat) :
    (w.look v now).2.path = w.path ∧
      (((w.isStale v.modified? = false ∨ ∃ e, v.load w.path = .error e) ∧
          (w.look v now).2.modified? = w.modified? ∧ (w.look v now).2.text = w.text) ∨
        ∃ f, w.isStale v.modified? = true ∧ v.load w.path = .ok f ∧
          (w.look v now).2.modified? = v.modified? ∧ (w.look v now).2.text = f.text) := by
  rw [look]
  cases hstale : w.isStale v.modified? with
  | false => exact ⟨rfl, .inl ⟨.inl rfl, rfl, rfl⟩⟩
  | true =>
      rw [if_pos rfl]
      cases hload : v.load w.path with
      | error e => exact ⟨rfl, .inl ⟨.inr ⟨e, rfl⟩, rfl, rfl⟩⟩
      | ok f => exact ⟨rfl, .inr ⟨f, rfl, rfl, rfl, rfl⟩⟩

/-- Where text and time of a watcher come from that started at the first moment. Either they are
those of the start, which asked for the contents at moment one and for the time at moment two; or
a check asked for the time first, and that was another one than at some moment since then. -/
inductive Traced (version : Nat → Sight) (w : Watcher) (moment : Nat) : Prop where
  | started (text : (version 1).bytes = .ok w.text.toUTF8)
      (time : w.modified? = (version 2).modified?) (passed : 2 < moment)
  | taken {before asked read : Nat} (since : 2 ≤ before) (next : before < asked)
      (later : asked ≤ read) (passed : read < moment)
      (moved : (version before).modified? ≠ (version asked).modified?)
      (time : w.modified? = (version asked).modified?)
      (text : (version read).bytes = .ok w.text.toUTF8)

variable {version : Nat → Sight} {w : Watcher} {n : Nat}

/-- So it is when watching has started. -/
theorem Traced.of_start {path : Path} {f : SourceFile}
    (h : (seen version 2 0 1).load path = .ok f) (session : Session) :
    Traced version ⟨path, session, (version 2).modified?, f.text⟩ 3 :=
  .started (bytes_of_load_seen h) rfl (by omega)

/-- The time that is kept was there at some moment since the start asked for it. -/
theorem Traced.exists_time (h : Traced version w n) :
    ∃ asked, 2 ≤ asked ∧ asked < n ∧ w.modified? = (version asked).modified? := by
  cases h with
  | started text time passed => exact ⟨2, Nat.le_refl 2, passed, time⟩
  | @taken before asked read since next later passed moved time text =>
      exact ⟨asked, by omega, by omega, time⟩

/-- A watcher that keeps text and time has them from where it had them. -/
theorem Traced.keep (h : Traced version w n) {w' : Watcher} {later : Nat} (hlater : n < later)
    (htime : w'.modified? = w.modified?) (htext : w'.text = w.text) :
    Traced version w' later := by
  cases h with
  | started text time passed =>
      exact .started (htext ▸ text) (htime.trans time) (by omega)
  | taken since next hread passed moved time text =>
      exact .taken since next hread (by omega) moved (htime.trans time) (htext ▸ text)

/-- A check either keeps text and time or has seen that the time is another one and has then read
the contents. -/
theorem Traced.check (h : Traced version w n) (now : Nat) :
    ∃ w' later, ((w.check now : StateM Timeline _).run ⟨version, n⟩).1.2 = w' ∧
      ((w.check now : StateM Timeline _).run ⟨version, n⟩).2 = ⟨version, later⟩ ∧
      w'.path = w.path ∧ Traced version w' later := by
  obtain ⟨later, hlater, hrun, hsource⟩ := check_run w version n now
  rw [hrun]
  obtain ⟨hpath, ⟨-, htime, htext⟩ | ⟨f, hstale, hload, htime, htext⟩⟩ :=
    look_cases w (seen version n (n + 1) (n + 2)) now
  · exact ⟨_, later, rfl, rfl, hpath, h.keep hlater htime htext⟩
  · obtain rfl := hsource f hstale hload
    obtain ⟨before, hsince, hnext, hkept⟩ := h.exists_time
    obtain ⟨t, ht, hmoved⟩ := isStale_iff.1 hstale
    refine ⟨_, n + 3, rfl, rfl, hpath, .taken hsince hnext (Nat.le_add_right n 2) (by omega) ?_
      htime ?_⟩
    · rw [← hkept, show (version n).modified? = some t from ht]
      exact hmoved
    · rw [htext]
      exact bytes_of_load_seen hload

/-- The watcher and the timeline after checks at these times of the clock. -/
def checkAll (w : Watcher) (s : Timeline) : List Nat → Watcher × Timeline
  | [] => (w, s)
  | now :: nows =>
      let r := (w.check now : StateM Timeline _).run s
      checkAll r.1.2 r.2 nows

/-- Checks keep track of text and time, whatever is replaced between their requests. -/
theorem Traced.checkAll (h : Traced version w n) (nows : List Nat) :
    ∃ w' later, w.checkAll ⟨version, n⟩ nows = (w', ⟨version, later⟩) ∧ w'.path = w.path ∧
      Traced version w' later := by
  induction nows generalizing w n with
  | nil => exact ⟨w, n, rfl, rfl, h⟩
  | cons now nows ih =>
      obtain ⟨w₁, later₁, hw₁, hs₁, hpath₁, htraced₁⟩ := h.check now
      obtain ⟨w', later, hall, hpath, htraced⟩ := ih htraced₁
      refine ⟨w', later, ?_, hpath.trans hpath₁, htraced⟩
      rw [Watcher.checkAll, hw₁, hs₁]
      exact hall

/-! ## A file that stays -/

/-- The version came while watching started: it was not there yet when the contents were asked
for, and it was when the time was. -/
def MissedAtStart (version : Nat → Sight) (v : Sight) : Prop :=
  (version 2).modified? = v.modified? ∧ (version 1).bytes ≠ v.bytes

/-- When nothing is replaced any more and the file can be loaded, the next check makes its contents
the text, unless the version that stays was missed at the start. -/
theorem Traced.text_look_iff (hversion : Redated version) (h : Traced version w n) {v : Sight}
    (hstill : ∀ k, n ≤ k → version k = v) {f : SourceFile} (hload : v.load w.path = .ok f)
    (now : Nat) : (w.look v now).2.text = f.text ↔ ¬MissedAtStart version v := by
  have hbytes : v.bytes = .ok f.text.toUTF8 := Sight.bytes_of_load hload
  have hnow : version n = v := hstill n (Nat.le_refl n)
  have hsome : (version n).modified? ≠ none := hversion.modified?_ne n _ (hnow ▸ hbytes)
  -- since a moment with the time of this version, no other version was there
  have hstays : ∀ m, m ≤ n → (version m).modified? = v.modified? →
      ∀ k, m ≤ k → k ≤ n → version k = v := by
    intro m hm hsame k hmk hkn
    rw [← hnow] at hsame ⊢
    exact hversion.version_eq hm hsome hsame k hmk hkn
  obtain ⟨-, ⟨hkeeps, -, htext⟩ | ⟨f', hstale, hload', -, htext⟩⟩ := look_cases w v now
  · -- the version that stays has the time that is kept
    have hkept : v.modified? = w.modified? := by
      rcases hkeeps with hcurrent | ⟨e, herror⟩
      · exact (not_isStale_iff.1 hcurrent).resolve_left (hnow ▸ hsome)
      · rw [hload] at herror
        cases herror
    rw [htext]
    cases h with
    | started text time passed =>
        have hsame : (version 2).modified? = v.modified? := (hkept.trans time).symm
        simp only [MissedAtStart, hsame, true_and, text, hbytes, ne_eq, Except.ok.injEq,
          Classical.not_not]
        exact String.toByteArray_inj.symm
    | @taken before asked read since next later passed moved time text =>
        have hread : version read = v :=
          hstays asked (by omega) (hkept.trans time).symm read later (by omega)
        have hsame_text : f.text = w.text := by
          rw [hread, hbytes, Except.ok.injEq] at text
          exact String.toByteArray_inj.1 text
        refine iff_of_true hsame_text.symm ?_
        rintro ⟨hsame, -⟩
        have hbefore := hstays 2 (by omega) hsame before since (by omega)
        have hasked := hstays 2 (by omega) hsame asked (by omega) (by omega)
        exact moved (by rw [hbefore, hasked])
  · obtain rfl : f = f' := Except.ok.inj (hload.symm.trans hload')
    refine iff_of_true htext ?_
    rintro ⟨hsame, -⟩
    -- all that a check could have seen since then is this version
    obtain ⟨asked, hsince, hasked, htime⟩ := h.exists_time
    obtain ⟨t, ht, hmoved⟩ := isStale_iff.1 hstale
    rw [htime, hstays 2 (by omega) hsame asked hsince (by omega)] at hmoved
    exact hmoved ht

/-- A check of a file that stays sees the version that is there. -/
theorem look_of_still (w : Watcher) {v : Sight} (hstill : ∀ k, n ≤ k → version k = v) (now : Nat) :
    ((w.check now : StateM Timeline _).run ⟨version, n⟩).1 = w.look v now := by
  obtain ⟨later, -, hrun, -⟩ := check_run w version n now
  have hseen : seen version n (n + 1) (n + 2) = v := by
    rw [seen, hstill n (by omega), hstill (n + 1) (by omega), hstill (n + 2) (by omega)]
  rw [hrun, hseen]

/-- A watcher starts at the first moment, and is checked any number of times while others replace
the file between any two requests. Once the file stays as it is and can be loaded, the next check
makes its contents the text, unless the version that stays came between the two requests of the
start for contents and time. Then no check does. -/
theorem text_settles_iff (hversion : Redated version) {path : Path} {session : Session}
    {w₀ : Watcher} {s₀ : Timeline}
    (hstart : (start path session : ExceptT CommandError (StateM Timeline) Watcher).run.run
      ⟨version, 0⟩ = (.ok w₀, s₀)) (nows : List Nat) {v : Sight}
    (hstill : ∀ n, (w₀.checkAll s₀ nows).2.moment ≤ n → version n = v) {f : SourceFile}
    (hload : v.load path = .ok f) (now : Nat) :
    (((w₀.checkAll s₀ nows).1.check now : StateM Timeline _).run
      (w₀.checkAll s₀ nows).2).1.2.text = f.text ↔ ¬MissedAtStart version v := by
  obtain ⟨f₀, hload₀, rfl, rfl⟩ := start_run_iff.1 hstart
  obtain ⟨w, n, hall, hpath, htraced⟩ := (Traced.of_start hload₀ session).checkAll nows
  rw [hall] at hstill ⊢
  rw [look_of_still w hstill]
  exact htraced.text_look_iff hversion hstill (hpath ▸ hload) now

/-- Versions that are numbered, with their numbers as times. `stage` tells which version is there
at a moment. -/
def numbered (texts : List String) (stage : Nat → Nat) (n : Nat) : Sight :=
  let text := texts.getD (stage n) ""
  ⟨some ⟨stage n, 0⟩, .ok text.utf8ByteSize, .ok text.toUTF8⟩

/-- The same version is there at two moments with the same number. -/
theorem numbered_eq (texts : List String) {stage : Nat → Nat} {m n : Nat} (h : stage m = stage n) :
    numbered texts stage m = numbered texts stage n := by
  rw [numbered, numbered, h]

/-- With numbers that never go back, every version that takes the place of another has a new
time. -/
theorem redated_numbered (texts : List String) {stage : Nat → Nat}
    (h : ∀ m n, m ≤ n → stage m ≤ stage n) : Redated (numbered texts stage) := by
  refine ⟨nofun, ?_⟩
  intro n hnew _ m hm hsame
  have hstage : (stage m : Int) = stage (n + 1) :=
    congrArg Timestamp.seconds (Option.some.inj hsame)
  have hmn := h m n hm
  have hnext := h n (n + 1) (Nat.le_succ n)
  exact hnew (numbered_eq texts (by omega))

/-- A version takes the place of another between the requests of a check. -/
theorem text_settles_iff_overtaken :
    let version := numbered ["x = 1", "x = 2", "if x: pass"] fun n =>
      if n < 3 then 0 else if n = 3 then 1 else 2
    ∃ w₀ s₀, Redated version ∧
      (start ⟨"a.py"⟩ (.start .empty ⟨0, none⟩) : ExceptT CommandError (StateM Timeline) _).run.run
        ⟨version, 0⟩ = (.ok w₀, s₀) ∧
      (∀ n, (w₀.checkAll s₀ [0]).2.moment ≤ n → version n = version 4) ∧
      (version 4).load ⟨"a.py"⟩ = .ok (.ofText ⟨"a.py"⟩ "if x: pass" 10) ∧
      (((w₀.checkAll s₀ [0]).1.check 5 : StateM Timeline _).run
        (w₀.checkAll s₀ [0]).2).1.2.text = "if x: pass" := by
  intro version
  have hversion : Redated version := redated_numbered _ (by grind)
  have hstays : ∀ n, 4 ≤ n → version n = version 4 := fun n hn => numbered_eq _ (by grind)
  have hload₀ : (seen version 2 0 1).load ⟨"a.py"⟩ = .ok (.ofText ⟨"a.py"⟩ "x = 1" 5) := rfl
  have hload : (version 4).load ⟨"a.py"⟩ = .ok (.ofText ⟨"a.py"⟩ "if x: pass" 10) := rfl
  have hstart := (@start_run_iff ⟨"a.py"⟩ (.start .empty ⟨0, none⟩) version 0 _ _).2
    ⟨_, hload₀, rfl, rfl⟩
  have hstill : ∀ n, (checkAll ⟨⟨"a.py"⟩, .start .empty ⟨0, none⟩, some ⟨0, 0⟩, "x = 1"⟩
      ⟨version, 3⟩ [0]).2.moment ≤ n → version n = version 4 := by
    obtain ⟨later, hlater, hrun, -⟩ := check_run
      ⟨⟨"a.py"⟩, .start .empty ⟨0, none⟩, some ⟨0, 0⟩, "x = 1"⟩ version 3 0
    intro n hn
    rw [checkAll, checkAll, hrun] at hn
    exact hstays n (Nat.le_trans hlater hn)
  refine ⟨_, _, hversion, hstart, hstill, hload, ?_⟩
  exact (text_settles_iff hversion hstart [0] hstill hload 5).2 nofun

/-- The text does not always come to be what the file stays with: a version that comes while
watching starts may never be read. -/
theorem not_text_settles :
    ¬∀ (version : Nat → Sight) (path : Path) (session : Session) (w₀ : Watcher) (s₀ : Timeline)
      (nows : List Nat) (v : Sight) (f : SourceFile) (now : Nat), Redated version →
      (start path session : ExceptT CommandError (StateM Timeline) Watcher).run.run
        ⟨version, 0⟩ = (.ok w₀, s₀) →
      (∀ n, (w₀.checkAll s₀ nows).2.moment ≤ n → version n = v) → v.load path = .ok f →
      (((w₀.checkAll s₀ nows).1.check now : StateM Timeline _).run
        (w₀.checkAll s₀ nows).2).1.2.text = f.text := by
  intro hall
  -- the file is replaced after it was read and before its time is asked for
  let version := numbered ["x = 1", "if x: pass"] fun n => if n < 2 then 0 else 1
  have hversion : Redated version := redated_numbered _ (by grind)
  have hload₀ : (seen version 2 0 1).load ⟨"a.py"⟩ = .ok (.ofText ⟨"a.py"⟩ "x = 1" 5) := rfl
  have hload : (version 2).load ⟨"a.py"⟩ = .ok (.ofText ⟨"a.py"⟩ "if x: pass" 10) := rfl
  have hstart := (@start_run_iff ⟨"a.py"⟩ (.start .empty ⟨0, none⟩) version 0 _ _).2
    ⟨_, hload₀, rfl, rfl⟩
  have hstill : ∀ n, 3 ≤ n → version n = version 2 := fun n hn => numbered_eq _ (by grind)
  have htext := hall version _ _ _ _ [] _ _ 0 hversion hstart hstill hload
  rw [checkAll, look_of_still _ hstill] at htext
  have hread : (version 1).bytes ≠ (version 2).bytes := fun h =>
    absurd (String.toByteArray_inj.1 (Except.ok.inj h)) (by decide)
  exact ((Traced.of_start hload₀ _).text_look_iff hversion hstill hload 0).1 htext ⟨rfl, hread⟩

end Watcher

end Glossary
