import Glossary.Generated

/-!
# Help

What is shown about the program and its commands when help is asked for. A page says what
something is for and how it is used, and lists what may be given: commands, operands and options,
each with a text beside it. Texts that do not fit beside the options stand on lines of their own.

## Main results

* `page?_isSome_iff` — there is a page for every command and for asking for help.
-/

namespace Glossary.CommandLine

/-- An option as help shows it. -/
structure HelpOption where
  /-- The flag of one letter that stands for the option. -/
  letter? : Option Char
  form : String
  text : String
  deriving DecidableEq, Repr

/-- What help shows. -/
structure HelpPage where
  about : String
  /-- What may stand behind the name of the program. -/
  usage : String
  commands : List (String × String)
  operands : List (String × String)
  options : List HelpOption
  deriving DecidableEq, Repr

namespace HelpPage

/-- A text with spaces behind it, up to a width. -/
def padded (width : Nat) (s : String) : String :=
  s ++ String.ofList (List.replicate (width - s.length) ' ')

/-- The largest length. -/
def widest (texts : List String) : Nat := (texts.map String.length).foldl max 0

/-- A list under a heading, with the texts beside the names. -/
def block (heading : String) (items : List (String × String)) : List String :=
  if items = [] then []
  else
    let width := widest (items.map (·.1))
    [heading ++ "\n" ++ String.join (items.map fun i => s!"  {padded width i.1}  {i.2}\n")]

/-- The columns of a line. -/
def lineWidth : Nat := 100

/-- Whether texts have to stand below the options: when the options take two fifths of a line and
some text is longer than what they leave. -/
def textsBelow (options : List HelpOption) : Bool :=
  let taken := widest (options.map (·.form)) + 12
  2 * lineWidth < 5 * taken && options.any fun o => lineWidth < taken + o.text.length

/-- The options under their heading. -/
def optionBlock (options : List HelpOption) : List String :=
  if options = [] then []
  else
    let width := widest (options.map (·.form))
    let line (o : HelpOption) : String :=
      let letter := (o.letter?.map fun c => s!"-{c}, ").getD "    "
      if textsBelow options then s!"  {letter}{o.form}\n          {o.text}\n"
      else s!"  {letter}{padded width o.form}  {o.text}\n"
    ["Options:\n" ++ String.join (options.map line)]

/-- The whole page. -/
def text (p : HelpPage) : String :=
  "\n".intercalate ([s!"{p.about}\n", s!"Usage: lexdoc {p.usage}\n"] ++
    block "Commands:" p.commands ++ block "Arguments:" p.operands ++ optionBlock p.options)

end HelpPage

namespace Help

def config : HelpOption := ⟨none, "--config <CONFIG>", "Preferences file (TOML)"⟩

def verbose : HelpOption :=
  ⟨some 'v', "--verbose...", "Increase log verbosity (-v info, -vv debug)"⟩

def help : HelpOption := ⟨some 'h', "--help", "Print help"⟩

def version : HelpOption := ⟨some 'V', "--version", "Print version"⟩

/-- The language, with what is said about its default. -/
def language (default : String) : HelpOption :=
  ⟨none, "--language <LANGUAGE>", default ++ "[possible values: python, c]"⟩

/-- The language where the first one is taken unless another is named. -/
def presetLanguage : HelpOption := language "[default: python] "

def dictionary (text : String) : HelpOption := ⟨none, "--dictionary <DICTIONARY>", text⟩

def format : HelpOption :=
  ⟨none, "--format <FORMAT>", "[default: text] [possible values: text, json]"⟩

/-- What the commands are for. -/
def commands : List (String × String) := [
  ("analyze", "Classify every token in a file"),
  ("hover", "Show the reference entry for the token at a position"),
  ("lookup", "Look a token up in the dictionary"),
  ("generate", "Convert a markdown reference into JSON dictionaries"),
  ("docs", "Render the reference as a static HTML page"),
  ("watch", "Re-analyze a file whenever it changes"),
  ("help", "Print this message or the help of the given subcommand(s)")]

/-- The operands and options of a command, and how it is used behind its name. -/
def arguments? : String → Option (String × List (String × String) × List HelpOption)
  | "analyze" =>
      some ("[OPTIONS] <FILE>", [("<FILE>", "")],
        [config, language "",
          dictionary "Dictionary to use instead of the embedded one (.json or .md)", verbose,
          format, ⟨none, "--groups", "Print the category tree instead of the token listing"⟩,
          help])
  | "hover" =>
      some ("[OPTIONS] --line <LINE> --column <COLUMN> <FILE>", [("<FILE>", "")],
        [config, ⟨none, "--line <LINE>", "1-based line"⟩,
          ⟨none, "--column <COLUMN>", "1-based column in characters"⟩, verbose, language "",
          dictionary "", format, help])
  | "lookup" =>
      some ("[OPTIONS] <TOKEN>", [("<TOKEN>", "")],
        [config, presetLanguage, dictionary "", verbose, help])
  | "generate" =>
      some ("[OPTIONS] --source <SOURCE> --out-dir <OUT_DIR>", [],
        [config, ⟨none, "--source <SOURCE>", ""⟩, ⟨none, "--out-dir <OUT_DIR>", ""⟩, verbose,
          ⟨none, "--title <TITLE>",
            "Title for the sectioned document (defaults to the first heading)"⟩,
          ⟨none, "--definitions-out <DEFINITIONS_OUT>",
            s!"[default: {Generated.definitionsFile}]"⟩,
          ⟨none, "--dictionary-out <DICTIONARY_OUT>", s!"[default: {Generated.documentFile}]"⟩,
          help])
  | "docs" =>
      some ("[OPTIONS]", [],
        [config, presetLanguage, dictionary "", verbose,
          ⟨none, "--output <OUTPUT>", "Output file (stdout when omitted)"⟩, help])
  | "watch" =>
      some ("[OPTIONS] <FILE>", [("<FILE>", "")],
        [config, language "", dictionary "", verbose, help])
  | "help" =>
      some ("[COMMAND]...", [("[COMMAND]...", "Print help for the subcommand(s)")], [])
  | _ => none

/-- The page about the whole program. -/
def program : HelpPage :=
  ⟨"Token reference lookup for Python and C source", "[OPTIONS] <COMMAND>", commands, [],
    [config, verbose, help, version]⟩

/-- The page about a command. -/
def page? (command : String) : Option HelpPage :=
  (arguments? command).map fun (usage, operands, options) =>
    ⟨(commands.lookup command).getD "", s!"{command} {usage}", [], operands, options⟩

theorem page?_isSome_iff {command : String} :
    (page? command).isSome ↔ command ∈ commands.map (·.1) := by
  simp only [page?, Option.isSome_map, commands, List.map_cons, List.map_nil, List.mem_cons,
    List.not_mem_nil, or_false]
  constructor
  · unfold arguments?
    split <;> simp
  · rintro (rfl | rfl | rfl | rfl | rfl | rfl | rfl) <;> rfl

end Help

end Glossary.CommandLine
