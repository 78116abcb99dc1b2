import Glossary.Program
import Std.Time.DateTime.Timestamp

/-!
# The executable

Runs the program on the machine at hand: files, environment, clock and terminal. Everything that
is decided is decided elsewhere; here requests are passed on, and log lines are written as the
events happen.
-/

namespace Glossary.Terminal

/-- How events become log lines. -/
structure Logger where
  filter : LogFilter
  format : LogFormat

/-- Work on the machine at hand, with a log. -/
abbrev Work := ReaderT Logger IO

def hostError : IO.Error → HostError
  | .noFileOrDirectory _ _ _ => .notFound
  | .permissionDenied _ _ _ => .permissionDenied
  | .alreadyExists _ _ _ => .alreadyExists
  | .inappropriateType _ 21 _ => .isFolder
  | .inappropriateType _ _ _ => .notFolder
  | .resourceExhausted _ 36 _ => .nameTooLong
  | e => .other e.toString

/-- Runs a request; a failure is the answer. -/
def asking {α : Type} (request : IO α) : Work (Except HostError α) := do
  match ← request.toBaseIO with
  | .ok a => pure (.ok a)
  | .error e => pure (.error (hostError e))

/-- What the machine knows about a file. -/
def metadata (p : Path) : IO IO.FS.Metadata :=
  (IO.FS.DirEntry.path ⟨if p.isAbsolute then "" else ".", p.text⟩).metadata

def timestamp : IO Timestamp := do
  let nanos := (← Std.Time.Timestamp.now).toNanosecondsSinceUnixEpoch.val
  pure ⟨nanos.fdiv 1000000000, (nanos.fmod 1000000000).toNat⟩

instance : Host Work where
  size p := asking do pure (← metadata p).byteSize.toNat
  modified? p := do
    match ← asking (metadata p) with
    | .ok m => pure (some ⟨m.modified.sec, m.modified.nsec.toNat⟩)
    | .error _ => pure none
  read p := asking (IO.FS.readBinFile p.text)
  write p text := asking (IO.FS.writeFile p.text text)
  isFolder p := do
    match ← asking (metadata p) with
    | .ok m => pure (m.type matches .dir)
    | .error _ => pure false
  makeFolder p := asking (IO.FS.createDir p.text)
  tell e := do
    let logger ← read
    let line := e.line logger.format (← timestamp)
    if logger.filter.shows e.level line then IO.eprintln line

/-- Shows a line at once. -/
def announce (line : String) : IO Unit := do
  IO.println line
  (← IO.getStdout).flush

/-- Looks at a file again and again, until it fails for good. -/
partial def follow (w : Watcher) : Work CommandError := do
  IO.sleep (UInt32.ofNat Limits.pollInterval)
  let (r, w) ← w.check (1000 * (← IO.monoMsNow))
  match r with
  | .ok none => follow w
  | .ok (some status) =>
      announce status.display
      follow w
  | .error e =>
      if Watcher.isRetryable e then
        Host.tell (w.retrying e)
        follow w
      else pure e

/-- Watches a file from its first pass on. -/
def watch (p : Preferences) (s : Subject) : Work CommandError := do
  Host.tell Program.starting
  match ← (Watcher.ofSubject p s).run with
  | .error e => pure e
  | .ok w =>
      let (r, w) ← w.initial
      match r with
      | .error e => pure e
      | .ok status =>
          announce status.display
          follow w

/-- Runs what the arguments ask for. -/
def run (setup : Program.Setup) : Work Program.Outcome := do
  match setup.command with
  | .watch s => pure (.ofResult (.error (← watch setup.preferences s)))
  | _ => pure (.ofResult (← Program.execute setup))

/-- The variables that the program looks at. -/
def environment : IO Environment := do
  let names := ["LEXDOC_DEBOUNCE_DELAY_MS", "LEXDOC_HOVER_EXAMPLES", "LEXDOC_GROUP_IDENTIFIERS",
    "LEXDOC_LOG_FORMAT", "RUST_LOG"]
  let values ← names.mapM fun name => do pure (name, ← IO.getEnv name)
  pure fun name => (values.lookup name).join

/-- Shows what came of a run. -/
def conclude (o : Program.Outcome) : IO UInt32 := do
  IO.print o.output
  IO.eprint o.complaint
  pure (UInt32.ofNat o.exitCode)

end Glossary.Terminal

open Glossary in
def main (arguments : List String) : IO UInt32 := do
  let silent : Terminal.Logger := ⟨⟨[⟨none, .off⟩], none⟩, .text⟩
  let prepare : Terminal.Work _ := (Program.prepare (← Terminal.environment) arguments).run
  match ← prepare.run silent with
  | .error refusal => Terminal.conclude refusal.outcome
  | .ok setup =>
      IO.eprint (Program.unlines setup.warnings)
      let logger : Terminal.Logger := ⟨setup.filter, setup.preferences.logFormat⟩
      Terminal.conclude (← (Terminal.run setup).run logger)
