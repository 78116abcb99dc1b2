import Glossary.CommandLine.Grammar

/-!
# The command line

What the program accepts on its command line: the preferences file and the verbosity, which may
stand anywhere, and one command with its own arguments. Of two preferences files, or counts of
verbosity, the one behind the command wins.

## Main results

* `read_nil` — without arguments the usage is shown.
-/

namespace Glossary.CommandLine

/-- A whole command line. -/
structure Invocation where
  config? : Option Path
  verbosity : Nat
  command : Command
  deriving DecidableEq, Repr

/-- Options that may stand anywhere. -/
def globalOptions : List Parameter := [⟨"config", .path⟩]

def globalFlags : List String := ["verbose", "help"]

def globalLetters : List (Char × String) := [('v', "verbose"), ('h', "help")]

/-- What stands in front of the command. -/
def outer : Grammar :=
  ⟨[], globalOptions, "version" :: globalFlags, ('V', "version") :: globalLetters⟩

/-- The grammar of a command with its own operands, options and flags. -/
def inner (operands options : List Parameter) (flags : List String) : Grammar :=
  ⟨operands, options ++ globalOptions, flags ++ globalFlags, globalLetters⟩

/-- The language and the dictionary may be chosen. -/
def dictionaryOptions : List Parameter := [⟨"language", .language⟩, ⟨"dictionary", .path⟩]

/-- What a command understands, by its name. -/
def grammar? : String → Option Grammar
  | "analyze" =>
      some (inner [⟨"file", .path⟩] (⟨"format", .format⟩ :: dictionaryOptions) ["groups"])
  | "hover" =>
      some (inner [⟨"file", .path⟩]
        ([⟨"line", .number⟩, ⟨"column", .number⟩, ⟨"format", .format⟩] ++ dictionaryOptions) [])
  | "lookup" => some (inner [⟨"token", .text⟩] dictionaryOptions [])
  | "generate" =>
      some (inner [] [⟨"source", .path⟩, ⟨"out-dir", .path⟩, ⟨"title", .text⟩,
        ⟨"definitions-out", .text⟩, ⟨"dictionary-out", .text⟩] [])
  | "docs" => some (inner [] (⟨"output", .path⟩ :: dictionaryOptions) [])
  | "watch" => some (inner [⟨"file", .path⟩] dictionaryOptions [])
  | _ => none

/-- Whether an argument names a command. Asking for help is one. -/
def isCommand (name : String) : Bool := name == "help" || (grammar? name).isSome

namespace Given

def subject (s : Given) : Except UsageError Subject := do
  pure ⟨← required (s.path? "file"), s.language?, s.path? "dictionary"⟩

/-- The dictionary that is chosen, for the first language unless one is named. -/
def dictionary (s : Given) : DictionaryChoice :=
  ⟨s.language?.getD .python, s.path? "dictionary"⟩

/-- The command that the arguments of a name make. -/
def command (s : Given) : String → Except UsageError Command
  | "analyze" => do pure (.analyze (← s.subject) s.format (s.flags.contains "groups"))
  | "hover" => do
      pure (.hover (← s.subject) (← required (s.number? "line")) (← required (s.number? "column"))
        s.format)
  | "lookup" => do pure (.lookup (← required (s.text? "token")) s.dictionary)
  | "generate" => do
      pure (.generate ⟨← required (s.path? "source"), ← required (s.path? "out-dir"),
        s.text? "title", (s.text? "definitions-out").getD Generated.definitionsFile,
        (s.text? "dictionary-out").getD Generated.documentFile⟩)
  | "docs" => .ok (.docs s.dictionary (s.path? "output"))
  | "watch" => do pure (.watch (← s.subject))
  | _ => .error .unknownCommand

end Given

/-- Reads what stands in front of the command, up to its name. Gives the name and what follows
it. -/
def readOuter : List String → Given → Except UsageError (Given × Option (String × List String))
  | [], s => .ok (s, none)
  | argument :: rest, s =>
      if !s.operandsOnly && !s.awaitsValue && isCommand argument then .ok (s, some (argument, rest))
      else if s.operandsOnly || (!s.awaitsValue && Given.isPlain argument) then
        .error (if s.operandsOnly && isCommand argument then .unknownArgument else .unknownCommand)
      else s.step outer argument >>= readOuter rest

/-- Help can be asked for on one command. -/
def helpOn : List String → UsageError
  | [] => .help
  | [name] => if isCommand name then .helpOn name else .unknownCommand
  | _ => .unknownCommand

/-- Reads a whole command line. -/
def read (arguments : List String) : Except UsageError Invocation := do
  let (s, command?) ← readOuter arguments (.nothing outer)
  match command? with
  | none =>
      let s ← s.settle
      throw (if s.values = [] ∧ s.verbosity = 0 then .noArguments else .missingCommand)
  | some (name, rest) =>
      match grammar? name with
      | none => throw (helpOn rest)
      | some g =>
          let own ← (Given.read g rest).mapError (.within name)
          let command ← own.command name
          let s ← s.settle
          pure ⟨own.path? "config" <|> s.path? "config",
            if own.verbosity = 0 then s.verbosity else own.verbosity, command⟩

theorem read_nil : read [] = .error .noArguments := rfl

end Glossary.CommandLine
