import Glossary.Language.CReference
import Glossary.Language.PythonReference
import Glossary.Path

/-!
# Languages

The languages that the program brings a reference for. A language is told by its name or by the
extension of a file, both in capitals or small letters of ASCII.
-/

namespace Glossary

inductive Language where
  | python
  | c
  deriving DecidableEq, Repr

/-- A name that no language has, in small letters. -/
structure UnknownLanguage where
  name : String
  deriving DecidableEq, Repr

def UnknownLanguage.message (e : UnknownLanguage) : String :=
  s!"Unsupported language: '{e.name}'"

namespace Language

/-- The name used on the command line, in data and on example blocks. -/
def name : Language → String
  | .python => "python"
  | .c => "c"

/-- The name used in headings. -/
def displayName : Language → String
  | .python => "Python"
  | .c => "C"

/-- Title of the page made from the language's own reference. -/
def referenceTitle (l : Language) : String := s!"{l.displayName} Language Reference"

/-- The reference that comes with the program. -/
def reference : Language → String
  | .python => pythonReference
  | .c => cReference

/-- The language with a name in small letters. -/
def ofSmallName? : String → Option Language
  | "python" | "py" => some .python
  | "c" => some .c
  | _ => none

/-- The language with a given name. -/
def ofName (name : String) : Except UnknownLanguage Language :=
  match ofSmallName? name.toLower with
  | some l => .ok l
  | none => .error ⟨name.toLower⟩

/-- The language of files with a given extension. -/
def ofExtension? (extension : String) : Option Language :=
  match extension.toLower with
  | "py" | "pyi" | "pyw" => some .python
  | "c" | "h" => some .c
  | _ => none

/-- The language that the name of a file tells. -/
def ofPath? (p : Path) : Option Language := p.extension?.bind ofExtension?

theorem ofSmallName?_name (l : Language) : ofSmallName? l.name = some l := by cases l <;> rfl

end Language

end Glossary
