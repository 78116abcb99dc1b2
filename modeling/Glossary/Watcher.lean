import Glossary.Command.Run
import Glossary.Session

/-!
# Watching a file

A watcher keeps the text of a file and the time at which the file was last changed. Each check
looks at that time first; only if it has moved is the file read again and the change noted as an
edit. Then the session decides whether a pass is due. A file that is gone, or that cannot be read,
leaves the watcher as it is.

## Main results

* `isStale_iff` — the file is read again when a time is seen that is not the one kept.
-/

namespace Glossary

/-- A session that follows a file. -/
structure Watcher where
  path : Path
  session : Session
  /-- When the file was last changed, as far as was seen. -/
  modified? : Option Timestamp
  text : String

namespace Watcher

/-- How many passes have succeeded. -/
def passes (w : Watcher) : Nat := w.session.passes

/-- Whether the file must be read again, given the time that was just seen. -/
def isStale (w : Watcher) (seen? : Option Timestamp) : Bool :=
  seen?.isSome && seen? != w.modified?

theorem isStale_iff {w : Watcher} {seen? : Option Timestamp} :
    w.isStale seen? = true ↔ ∃ t, seen? = some t ∧ w.modified? ≠ some t := by
  cases seen? with
  | none => simp [isStale]
  | some t => simpa [isStale] using ne_comm

theorem not_isStale_iff {w : Watcher} {seen? : Option Timestamp} :
    w.isStale seen? = false ↔ seen? = none ∨ seen? = w.modified? := by
  cases seen? <;> simp [isStale]

/-- Takes in a changed file. -/
def accept (w : Watcher) (seen? : Option Timestamp) (text : String) (now : Nat) : Watcher :=
  { w with text := text, modified? := seen?, session := w.session.edit now }

/-- Runs a pass over the text if one is due. -/
def poll (w : Watcher) (now : Nat) : Option (Except AnalysisError Analysis) × Watcher :=
  let (outcome, session) := w.session.poll now w.text
  (outcome, { w with session := session })

/-- Runs a pass over the text at once. -/
def analyzeNow (w : Watcher) : Except AnalysisError Analysis × Watcher :=
  let (outcome, session) := w.session.analyzeNow w.text
  (outcome, { w with session := session })

/-- Whether watching goes on after a failure: files that cannot be read now may come back. -/
def isRetryable : CommandError → Bool
  | .source _ => true
  | e => !e.halts

variable {m : Type → Type} [Monad m] [Host m]

/-- Starts to follow a file: its text is read first, then the time of its last change. -/
def start (path : Path) (session : Session) : ExceptT CommandError m Watcher := do
  let source ← (SourceFile.load path).adapt .source
  let modified? ← Host.modified? path
  pure ⟨path, session, modified?, source.text⟩

/-- Runs a pass at once and gives its status. -/
def initial (w : Watcher) : m (Except CommandError Status × Watcher) := do
  let (outcome, after) := w.analyzeNow
  Host.tellAll (Report.analyze w.text outcome)
  pure ((outcome.map Analysis.status).mapError .analysis, after)

/-- Polls the session and gives the status of the pass, if there was one. -/
def pollStatus (w : Watcher) (now : Nat) : m (Except CommandError (Option Status) × Watcher) := do
  match w.poll now with
  | (none, after) => pure (.ok none, after)
  | (some outcome, after) =>
      Host.tellAll (Report.analyze w.text outcome)
      pure ((outcome.map fun a => some a.status).mapError .analysis, after)

/-- Looks at the file, reads it again if it has changed, and runs a pass if one is due. -/
def check (w : Watcher) (now : Nat) : m (Except CommandError (Option Status) × Watcher) := do
  let seen? ← Host.modified? w.path
  if w.isStale seen? then
    match ← (SourceFile.load w.path).run with
    | .error e => pure (.error (.source e), w)
    | .ok source =>
        Host.tell (Report.edited w.session)
        (w.accept seen? source.text now).pollStatus now
  else w.pollStatus now

/-- Loads all that is needed to watch a file. -/
def ofSubject (p : Preferences) (s : Subject) : ExceptT CommandError m Watcher := do
  let (_, language) ← s.load
  let store ← (s.dictionary language).load
  let w ← start s.file (.start store (.ofMilliseconds p.delay))
  Host.tell (.info "Watching file" [("file", s.file.text), ("language", language.name),
    Report.count "poll_ms" Limits.pollInterval])
  pure w

/-- What is reported of a failure after which watching goes on. -/
def retrying (w : Watcher) (e : CommandError) : Event :=
  .warning (some e.code) "Re-analysis failed, retrying"
    [("file", w.path.text), ("error", e.message)]

end Watcher

/-- Does what a command asks for. Of watching, this is the first pass. -/
def Command.run {m : Type → Type} [Monad m] [Host m] (p : Preferences) :
    Command → ExceptT CommandError m String
  | .analyze s format groups => runAnalyze p s format groups
  | .hover s line column format => runHover p s line column format
  | .lookup token d => runLookup p token d
  | .generate o => runGenerate o
  | .docs d output? => runDocs d output?
  | .watch s => do
      let w ← Watcher.ofSubject p s
      let (status, _) ← w.initial
      match status with
      | .error e => throw e
      | .ok s => pure s.display

end Glossary
