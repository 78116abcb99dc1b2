import Glossary.Command
import Glossary.Text.Digit

/-!
# Reading arguments

Arguments are read from left to right. An argument that starts with two hyphens names an option,
whose value is attached behind an equals sign or is the next argument; one that starts with a
single hyphen is a run of one-letter flags; all others are operands, and behind a bare double
hyphen everything is an operand. A value is checked only when the next option, flag or operand
has been recognized, so an argument that nothing recognizes is told about first.

## Main results

* `settle_idem` — what is settled stays settled.
-/

namespace Glossary.CommandLine

/-- Why arguments are not accepted; help and the version are asked for in the same way. -/
inductive UsageError where
  | help
  /-- Help on a command. -/
  | helpOn (command : String)
  | version
  | noArguments
  | missingCommand
  | unknownCommand
  | unknownArgument
  | missingArgument
  | invalidValue
  | malformedNumber
  | valueForFlag
  | repeated
  deriving DecidableEq, Repr

/-- An error in the arguments of a command: asking for help there is asking for help on it. -/
def UsageError.within (command : String) : UsageError → UsageError
  | .help => .helpOn command
  | e => e

/-- What a value has to be. -/
inductive Form where
  | text
  | path
  | language
  | format
  | number
  deriving DecidableEq, Repr

/-- A value that has been checked. -/
inductive Value where
  | text (s : String)
  | path (p : Path)
  | language (l : Language)
  | format (f : OutputFormat)
  | number (n : Nat)
  deriving DecidableEq, Repr

/-- A number of 32 bits, with or without a sign. -/
def number? (text : String) : Option Nat := do
  let (negative, digits) :=
    match text.toList with
    | '+' :: rest => (false, rest)
    | '-' :: rest => (true, rest)
    | s => (false, s)
  let n ← Text.decimal? digits
  if n ≤ 4294967295 ∧ (negative → n = 0) then some n else none

/-- The language with exactly this name. -/
def language? : String → Option Language
  | "python" => some .python
  | "c" => some .c
  | _ => none

/-- Checks a value. A path must not be empty. -/
def Form.read : Form → String → Except UsageError Value
  | .text, s => .ok (.text s)
  | .path, s => if s = "" then .error .invalidValue else .ok (.path ⟨s⟩)
  | .language, s => (language? s).elim (.error .invalidValue) (.ok ∘ .language)
  | .format, s => (OutputFormat.ofName? s).elim (.error .invalidValue) (.ok ∘ .format)
  | .number, s => (number? s).elim (.error .malformedNumber) (.ok ∘ .number)

/-- A name and what its value has to be. -/
structure Parameter where
  name : String
  form : Form
  deriving DecidableEq, Repr

/-- What a command understands. -/
structure Grammar where
  /-- Values told by their place. -/
  operands : List Parameter
  /-- Values told by their name. -/
  options : List Parameter
  /-- Options without values. -/
  flags : List String
  /-- Flags of one letter, with the names of the flags that they stand for. -/
  letters : List (Char × String)
  deriving DecidableEq, Repr

/-- What has been read so far. -/
structure Given where
  values : List (String × Value)
  flags : List String
  /-- How often more log lines were asked for. -/
  verbosity : Nat
  /-- A value that is not yet checked, or a name whose value must come next. -/
  pending? : Option (Parameter × Option String)
  /-- Operands that may still come. -/
  operands : List Parameter
  /-- Whether all that follows is operands. -/
  operandsOnly : Bool
  deriving DecidableEq, Repr

namespace Given

/-- Nothing has been read. -/
def nothing (g : Grammar) : Given := ⟨[], [], 0, none, g.operands, false⟩

/-- Whether a value must come next. -/
def awaitsValue (s : Given) : Bool := s.pending?.any (·.2.isNone)

/-- Checks the value that is pending. No name may be given twice. -/
def settle (s : Given) : Except UsageError Given :=
  match s.pending? with
  | none => .ok s
  | some (_, none) => .error .invalidValue
  | some (p, some text) =>
      if (s.values.lookup p.name).isSome then .error .repeated
      else (p.form.read text).map fun v =>
        { s with values := s.values ++ [(p.name, v)], pending? := none }

theorem settle_idem {s t : Given} (h : s.settle = .ok t) : t.settle = .ok t := by
  unfold settle at h
  split at h
  · simp_all [settle]
  · simp at h
  · split at h
    · simp at h
    · next p text _ _ =>
        cases hv : p.form.read text with
        | error e => simp [hv, Except.map] at h
        | ok v =>
            simp only [hv, Except.map, Except.ok.injEq] at h
            simp [← h, settle]

/-- The longest count of flags that is told apart. -/
def maxVerbosity : Nat := 255

/-- Takes in a flag. -/
def flag (s : Given) (name : String) : Except UsageError Given := do
  let s ← s.settle
  if name = "help" then throw .help
  else if name = "version" then throw .version
  else if name = "verbose" then pure { s with verbosity := min maxVerbosity (s.verbosity + 1) }
  else if s.flags.contains name then throw .repeated
  else pure { s with flags := s.flags ++ [name] }

/-- Takes in the name of an option and perhaps a value attached to it. -/
def option (g : Grammar) (s : Given) (name : String) (value? : Option String) :
    Except UsageError Given :=
  match g.options.find? (·.name == name), value? with
  | some p, none => s.settle.map fun s => { s with pending? := some (p, none) }
  | some p, some text => do
      let s ← s.settle
      settle { s with pending? := some (p, some text) }
  | none, none => if g.flags.contains name then s.flag name else .error .unknownArgument
  | none, some _ => .error (if g.flags.contains name then .valueForFlag else .unknownArgument)

/-- Takes in a run of one-letter flags. -/
def letters (g : Grammar) (s : Given) (run : List Char) : Except UsageError Given :=
  run.foldlM (fun s c =>
    match g.letters.lookup c with
    | some name => s.flag name
    | none => .error .unknownArgument) s

/-- Takes in an operand. -/
def operand (s : Given) (text : String) : Except UsageError Given :=
  match s.operands with
  | [] => .error .unknownArgument
  | p :: rest => s.settle.map fun s => { s with pending? := some (p, some text), operands := rest }

/-- Whether an argument is neither the end of the options, nor an option, nor a run of flags. A
hyphen alone is not. -/
def isPlain (argument : String) : Bool :=
  match argument.toList with
  | '-' :: _ :: _ => false
  | _ => true

/-- Cuts the text of an option at its first equals sign. -/
def cut (s : List Char) : String × Option String :=
  let name := String.ofList (s.takeWhile (· ≠ '='))
  match s.dropWhile (· ≠ '=') with
  | _ :: value => (name, some (String.ofList value))
  | [] => (name, none)

/-- Takes in one argument. -/
def step (g : Grammar) (s : Given) (argument : String) : Except UsageError Given :=
  if s.operandsOnly then s.operand argument
  else
    match argument.toList with
    | ['-', '-'] => .ok { s with operandsOnly := true }
    | '-' :: '-' :: rest => let (name, value?) := cut rest; s.option g name value?
    | '-' :: c :: rest => s.letters g (c :: rest)
    | _ =>
        match s.pending? with
        | some (p, none) => .ok { s with pending? := some (p, some argument) }
        | _ => s.operand argument

/-- Reads all arguments of a command. -/
def read (g : Grammar) (arguments : List String) : Except UsageError Given := do
  (← arguments.foldlM (step g) (nothing g)).settle

def text? (s : Given) (name : String) : Option String :=
  match s.values.lookup name with
  | some (.text t) => some t
  | _ => none

def path? (s : Given) (name : String) : Option Path :=
  match s.values.lookup name with
  | some (.path p) => some p
  | _ => none

def language? (s : Given) : Option Language :=
  match s.values.lookup "language" with
  | some (.language l) => some l
  | _ => none

def format (s : Given) : OutputFormat :=
  match s.values.lookup "format" with
  | some (.format f) => f
  | _ => .text

def number? (s : Given) (name : String) : Option Nat :=
  match s.values.lookup name with
  | some (.number n) => some n
  | _ => none

/-- A value that must be there. -/
def required {α : Type} : Option α → Except UsageError α
  | some a => .ok a
  | none => .error .missingArgument

end Given

end Glossary.CommandLine
