import Glossary.CommandLine
import Glossary.CommandLine.Help
import Glossary.Log.Filter
import Glossary.Watcher

/-!
# The program

From the arguments and the environment to what the user sees. The arguments and the preferences
come first; if either is refused, no command is run.

## Main results

* `exitCode_ofResult` — the program reports success exactly when the command succeeds.
-/

namespace Glossary

namespace Program

def version : String := "0.1.0"

/-- All that a run needs to know before it starts. -/
structure Setup where
  command : Command
  preferences : Preferences
  filter : LogFilter
  /-- What was wrong with the filter. -/
  warnings : List String
  deriving DecidableEq, Repr

/-- Why no command is run. -/
inductive Refusal where
  | usage (error : CommandLine.UsageError)
  | preferences (error : PreferencesError) (warnings : List String)
  deriving DecidableEq, Repr

/-- What the user sees of a run besides the log. -/
structure Outcome where
  exitCode : Nat
  output : String
  complaint : String
  deriving DecidableEq, Repr

/-- What is said about arguments that are not accepted. -/
def usageMessage : CommandLine.UsageError → String
  | .help | .noArguments => CommandLine.Help.program.text
  | .helpOn command => ((CommandLine.Help.page? command).map (·.text)).getD ""
  | .version => s!"lexdoc {version}\n"
  | .missingCommand => "error: a command is required\n"
  | .unknownCommand => "error: unrecognized command\n"
  | .unknownArgument => "error: unexpected argument\n"
  | .missingArgument => "error: a required argument is missing\n"
  | .invalidValue => "error: a value is missing or not one of those allowed\n"
  | .malformedNumber => "error: a value is not a number in range\n"
  | .valueForFlag => "error: a value is given to an option that takes none\n"
  | .repeated => "error: an option is given more than once\n"

/-- Ends lines. -/
def unlines (lines : List String) : String := String.join (lines.map (· ++ "\n"))

def Refusal.outcome : Refusal → Outcome
  | .usage e =>
      match e with
      | .help | .helpOn _ | .version => ⟨0, usageMessage e, ""⟩
      | _ => ⟨2, "", usageMessage e⟩
  | .preferences e warnings => ⟨1, "", unlines (warnings ++ [s!"Error: {e.display}"])⟩

/-- What the user sees of a command that was run. -/
def Outcome.ofResult : Except CommandError String → Outcome
  | .ok text => ⟨0, text ++ "\n", ""⟩
  | .error e => ⟨1, "", e.report ++ "\n"⟩

theorem exitCode_ofResult (r : Except CommandError String) :
    (Outcome.ofResult r).exitCode = 0 ↔ ∃ text, r = .ok text := by
  cases r <;> simp [Outcome.ofResult]

/-- What is reported when a command is about to run. -/
def starting : Event :=
  .debug none "lexdoc starting" [("version", version), ("limits", Limits.sourceInfo)]

variable {m : Type → Type} [Monad m] [Host m]

/-- Reads the arguments and loads the preferences. -/
def prepare (env : Environment) (arguments : List String) : ExceptT Refusal m Setup := do
  match CommandLine.read arguments with
  | .error e => throw (.usage e)
  | .ok invocation =>
      let (filter, warnings) := LogFilter.ofEnvironment (env "RUST_LOG") invocation.verbosity
      let preferences ←
        match invocation.config? with
        | none => pure (Preferences.ofEnvironment env)
        | some p => (Preferences.load env p).adapt (.preferences · warnings)
      pure ⟨invocation.command, preferences, filter, warnings⟩

/-- Runs the command. -/
def execute (s : Setup) : m (Except CommandError String) := do
  Host.tell starting
  (s.command.run s.preferences).run

end Program

end Glossary
