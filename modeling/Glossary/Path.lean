import Glossary.Text.Fragment

/-!
# Paths

A path is the text that names a file, in parts separated by slashes. Empty parts and single dots
name nothing, so the name of a file is the last part that is neither; a path that ends in two
dots has no name.
-/

namespace Glossary

/-- The text that names a file. -/
structure Path where
  text : String
  deriving DecidableEq, Repr

namespace Path

/-- The parts that name something. -/
def parts (p : Path) : List (List Char) :=
  (p.text.toList.splitOn '/').filter fun part => part ≠ [] && part ≠ ['.']

def isAbsolute (p : Path) : Bool := p.text.toList.head? = some '/'

/-- The parts that lead somewhere; a dot counts in front of a relative path. -/
def steps (p : Path) : List String :=
  let parts := p.parts.map String.ofList
  if (p.text.toList.splitOn '/').head? = some ['.'] then "." :: parts else parts

/-- The path of the given steps, from the same start. -/
def climb (p : Path) (steps : List String) : Path :=
  ⟨(if p.isAbsolute then "/" else "") ++ String.intercalate "/" steps⟩

/-- The last part, unless it points upwards. -/
def name? (p : Path) : Option (List Char) :=
  p.parts.getLast?.filter (· ≠ ['.', '.'])

/-- Cuts a name at its last dot. A dot in front does not cut. -/
def splitName (name : List Char) : List Char × Option (List Char) :=
  let after := (name.reverse.takeWhile (· ≠ '.')).reverse
  let before := (name.reverse.dropWhile (· ≠ '.')).reverse.dropLast
  if before = [] then (name, none) else (before, some after)

/-- What follows the last dot of the name. -/
def extension? (p : Path) : Option String :=
  p.name?.bind fun name => (splitName name).2.map String.ofList

/-- Whether the extension is the given one, in capitals or small letters of ASCII. -/
def hasExtension (p : Path) (extension : String) : Bool :=
  p.extension?.any (·.toLower == extension.toLower)

/-- A file below a directory. An absolute file is its own path. -/
def join (p : Path) (file : String) : Path :=
  if (Path.mk file).isAbsolute || p.text.isEmpty then ⟨file⟩
  else if p.text.toList.getLast? = some '/' then ⟨p.text ++ file⟩
  else ⟨p.text ++ "/" ++ file⟩

end Path

end Glossary
