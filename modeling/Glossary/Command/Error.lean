import Glossary.ErrorCode
import Glossary.SourceFile

/-!
# Failures of commands

Why a command fails, the code of each cause, and the report that the user gets.

## Main results

* `CommandError.isRegistered_code` — every cause has a registered code.
-/

namespace Glossary

/-- Why a reference is not turned into data. -/
inductive GeneratorError where
  | reference (error : ReferenceError)
  | refused (path : Path) (cause : HostError)
  deriving DecidableEq, Repr

namespace GeneratorError

def message : GeneratorError → String
  | .reference error => error.message
  | .refused path cause => s!"Failed to write '{path.text}': {cause.message}"

def code : GeneratorError → Code
  | .reference error => error.code
  | .refused _ _ => .ioError

end GeneratorError

/-- Why a command fails. -/
inductive CommandError where
  | source (error : SourceError)
  | dictionary (error : DictionaryError)
  | analysis (error : AnalysisError)
  | generator (error : GeneratorError)
  | outside (path : Path) (line column : Nat)
  | refused (path : Path) (cause : HostError)
  deriving DecidableEq, Repr

namespace CommandError

def message : CommandError → String
  | .source error => error.message
  | .dictionary error => error.message
  | .analysis error => error.message
  | .generator error => error.message
  | .outside path line column => s!"Position {line}:{column} is outside {path.text}"
  | .refused path cause => s!"I/O error on {path.text}: {cause.message}"

def code : CommandError → Code
  | .source error => error.code
  | .dictionary error => error.code
  | .analysis error => error.code
  | .generator error => error.code
  | .outside _ _ _ => .positionOutOfRange
  | .refused _ _ => .ioError

/-- Whether the cause is so bad that the program cannot go on. -/
def halts (e : CommandError) : Bool := e.code.halts

/-- The message with its code, and a note on what the code stands for. -/
def report (e : CommandError) : String :=
  s!"error[{e.code.text}]: {e.message}\n  = note: {e.code.description}"

theorem isRegistered_code (e : CommandError) : e.code.isRegistered = true := by
  cases e with
  | source error => cases error <;> rfl
  | dictionary error => exact error.isRegistered_code
  | analysis error => cases error with | scan error => cases error <;> rfl
  | generator error =>
      cases error with
      | reference error => cases error; rfl
      | refused => rfl
  | outside => rfl
  | refused => rfl

end CommandError

end Glossary
