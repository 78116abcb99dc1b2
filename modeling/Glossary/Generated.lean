import Glossary.Document
import Glossary.Merge
import Glossary.Reference

/-!
# Generated dictionaries

What becomes of a reference when it is turned into data: one entry for each token, in the order
of the tokens, and the document that shows them.
-/

namespace Glossary

/-- A reference turned into data. The shadowed entries are in the document only. -/
structure Generated where
  definitions : List Entry
  shadowed : List Entry
  document : Document
  deriving DecidableEq, Repr

namespace Generated

/-- Names of the two files that are written unless others are given. -/
def definitionsFile : String := "built-in-definitions.json"

def documentFile : String := "dictionary.json"

/-- Title of a document whose reference has none. -/
def untitled : String := "Language Reference"

/-- The data of parsed entries. -/
def ofEntries (title : String) (parsed : List Entry) : Generated :=
  let definitions := sortEntries (merge parsed)
  let shadowed := shadowedConstants parsed definitions
  ⟨definitions, shadowed, .ofEntries title (definitions ++ shadowed)⟩

/-- The data of a reference. -/
def ofReference (source title : String) : Except ReferenceError Generated :=
  (Reference.parse source).map (ofEntries title)

end Generated

end Glossary
