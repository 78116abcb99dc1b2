import Glossary.Host
import Glossary.Limits
import Glossary.Text.Quoted
import Glossary.Text.Digit
import Glossary.Toml.Reader

/-!
# Preferences

What a user may choose. A preference that the preferences file does not set comes from the
environment, and one that the environment does not set, or sets to something senseless, has its
usual value.

## Main results

* `ofEnvironment_eq_usual` — an environment without settings gives the usual values.
-/

namespace Glossary

/-- What a user may choose. -/
structure Preferences where
  /-- Milliseconds between the last edit and the analysis it schedules. -/
  delay : Nat
  /-- Whether notes show the examples of entries. -/
  showsExamples : Bool
  /-- Whether unknown tokens have a group of their own. -/
  groupsIdentifiers : Bool
  logFormat : LogFormat
  deriving DecidableEq, Repr

/-- The values of variables, by their names. -/
abbrev Environment := String → Option String

namespace Preferences

def usual : Preferences := ⟨Limits.debounceDelay, true, true, .text⟩

/-- A number of 64 bits, with or without a plus in front. -/
def count? (text : String) : Option Nat :=
  let digits :=
    match text.toList with
    | '+' :: rest => rest
    | s => s
  (Text.decimal? digits).filter (· ≤ 18446744073709551615)

def flag? : String → Option Bool
  | "true" => some true
  | "false" => some false
  | _ => none

/-- The log format that a variable asks for. -/
def logFormatOf (text : String) : LogFormat := if text.toLower = "json" then .json else .text

/-- The preferences that the environment sets. -/
def ofEnvironment (env : Environment) : Preferences where
  delay := (env "LEXDOC_DEBOUNCE_DELAY_MS" >>= count?).getD usual.delay
  showsExamples := (env "LEXDOC_HOVER_EXAMPLES" >>= flag?).getD usual.showsExamples
  groupsIdentifiers := (env "LEXDOC_GROUP_IDENTIFIERS" >>= flag?).getD usual.groupsIdentifiers
  logFormat := ((env "LEXDOC_LOG_FORMAT").map logFormatOf).getD usual.logFormat

theorem ofEnvironment_eq_usual : ofEnvironment (fun _ => none) = usual := rfl

/-- Whether a value holds nothing. -/
def isEmpty : Toml.Value → Bool
  | .array items => items.isEmpty
  | .table _ members => members.isEmpty
  | _ => false

/-- A log format by its name, which may also be the only member of a table. -/
def logFormat? : Toml.Value → Option LogFormat
  | .string name => named name
  | .table _ [(name, v)] => if isEmpty v then named name else none
  | _ => none
where
  named : String → Option LogFormat
    | "text" => some .text
    | "json" => some .json
    | _ => none

def natural? : Toml.Value → Option Nat
  | .integer (.ofNat n) => some n
  | _ => none

def bool? : Toml.Value → Option Bool
  | .bool b => some b
  | _ => none

/-- The value of a member, read, or the given one if there is no such member. -/
def setting {α : Type} (ms : Toml.Members) (name : String) (read? : Toml.Value → Option α)
    (otherwise : α) : Option α :=
  match ms.lookup name with
  | none => some otherwise
  | some v => read? v

/-- The preferences that a table sets, over given ones. Members with other names are passed
over. -/
def ofTable? (otherwise : Preferences) (ms : Toml.Members) : Option Preferences := do
  let delay ← setting ms "debounce_delay_ms" natural? otherwise.delay
  let examples ← setting ms "include_examples_in_hover" bool? otherwise.showsExamples
  let identifiers ← setting ms "group_identifiers" bool? otherwise.groupsIdentifiers
  let format ← setting ms "log_format" logFormat? otherwise.logFormat
  pure ⟨delay, examples, identifiers, format⟩

/-- The preferences that a TOML text sets, over given ones. -/
def ofToml? (otherwise : Preferences) (text : String) : Option Preferences :=
  Toml.Members.read? text >>= ofTable? otherwise

end Preferences

/-- Why preferences are not loaded. -/
inductive PreferencesError where
  | refused (path : Path) (cause : HostError)
  | invalid (path : Path)
  deriving DecidableEq, Repr

namespace PreferencesError

/-- What is said about a text that sets no preferences. -/
def invalidReason : String := "not a table of preferences"

def message : PreferencesError → String
  | .refused path cause => s!"Cannot read preferences file {path.text}: {cause.message}"
  | .invalid path => s!"Invalid preferences TOML in {path.text}: {invalidReason}"

/-- The error with the names of its parts. -/
def display (e : PreferencesError) : String :=
  let (name, path, reason) :=
    match e with
    | .refused path cause => ("Io", path, cause.message)
    | .invalid path => ("Parse", path, invalidReason)
  s!"{name} \x7b path: {Text.quoted path.text}, message: {Text.quoted reason} \x7d"

end PreferencesError

/-- Loads preferences from a file; what it does not set comes from the environment. -/
def Preferences.load {m : Type → Type} [Monad m] [Host m] (env : Environment) (p : Path) :
    ExceptT PreferencesError m Preferences := do
  let content ← Host.attempt (.refused p) (Host.readText p)
  match ofToml? (ofEnvironment env) content with
  | none => throw (.invalid p)
  | some preferences => pure preferences

end Glossary
