import Glossary.Generated
import Glossary.Language

/-!
# Commands

What the program can be asked to do, with everything that a user may say about it.
-/

namespace Glossary

/-- How a result is shown. -/
inductive OutputFormat where
  | text
  | json
  deriving DecidableEq, Repr

namespace OutputFormat

def name : OutputFormat → String
  | .text => "text"
  | .json => "json"

def ofName? : String → Option OutputFormat
  | "text" => some .text
  | "json" => some .json
  | _ => none

end OutputFormat

/-- A file whose tokens are to be explained: the language is told by its path unless it is named,
and the dictionary is that of the language unless another one is given. -/
structure Subject where
  file : Path
  language? : Option Language
  dictionary? : Option Path
  deriving DecidableEq, Repr

/-- A dictionary: that of a language, or one from a file. -/
structure DictionaryChoice where
  language : Language
  file? : Option Path
  deriving DecidableEq, Repr

/-- Where generated data comes from and goes to. -/
structure GenerateOptions where
  source : Path
  folder : Path
  title? : Option String
  definitionsFile : String
  documentFile : String
  deriving DecidableEq, Repr

inductive Command where
  /-- Explain every token of a file. -/
  | analyze (subject : Subject) (format : OutputFormat) (groups : Bool)
  /-- Explain the token at a place. -/
  | hover (subject : Subject) (line column : Nat) (format : OutputFormat)
  /-- Explain one token. -/
  | lookup (token : String) (dictionary : DictionaryChoice)
  /-- Turn a reference into data. -/
  | generate (options : GenerateOptions)
  /-- Show a dictionary as a page. -/
  | docs (dictionary : DictionaryChoice) (output? : Option Path)
  /-- Analyze a file again whenever it changes. -/
  | watch (subject : Subject)
  deriving DecidableEq, Repr

end Glossary
