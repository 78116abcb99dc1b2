import Glossary.Document
import Glossary.Json.Reader
import Glossary.Json.Writer

/-!
# Entries and documents as data

The JSON form of entries and documents. Written, a record is an object with its fields in a fixed
order, and an entry without an example has no such field. Read, a record may also be an array of
its fields in that order; fields of other names are passed over, but no field may occur twice.
A name may stand for itself, or be the key of an object with nothing behind it.
-/

namespace Glossary

open Json (Value)

/-- The name that a value stands for. -/
def Json.Value.name? : Value → Option String
  | .string s => some s
  | .object [(key, .null)] => some key
  | _ => none

namespace Category

def ofJson? (v : Value) : Option Category := v.name?.bind withName?

def toJson (c : Category) : Value := .string c.name

end Category

namespace Section

def ofJson? (v : Value) : Option Section := v.name?.bind withName?

def toJson (s : Section) : Value := .string s.name

end Section

namespace Entry

/-- An example is a text or nothing at all. -/
def exampleOfJson? : Value → Option (Option String)
  | .null => some none
  | .string s => some (some s)
  | _ => none

/-- An entry from the values of its fields. -/
def ofFields? (token category description : Value) (text : Option Value) : Option Entry := do
  let token ← token.string?
  let category ← Category.ofJson? category
  let description ← description.string?
  let text ← exampleOfJson? (text.getD .null)
  pure (make token category description text)

/-- Reads an entry. `type` is an older name of the category's field. -/
def ofJson? : Value → Option Entry
  | .array [token, category, description] => ofFields? token category description none
  | .array [token, category, description, text] => ofFields? token category description (some text)
  | .object members => do
      let token ← Value.required? ["token"] members
      let category ← Value.required? ["category", "type"] members
      let description ← Value.required? ["description"] members
      let text ← Value.optional? ["example"] members
      ofFields? token category description text
  | _ => none

def toJson (e : Entry) : Value :=
  .object ([("token", .string e.token), ("category", e.category.toJson),
    ("description", .string e.description)] ++
    (e.example?.map fun text => ("example", Value.string text)).toList)

/-- Reads a list of entries. -/
def listOfJson? : Value → Option (List Entry)
  | .array items => items.mapM ofJson?
  | _ => none

/-- Reads the text of a list of entries. -/
def readList? (text : String) : Option (List Entry) := (Value.read? text).bind listOfJson?

/-- The text of a list of entries. -/
def writeList (es : List Entry) : String := (Value.array (es.map toJson)).pretty

end Entry

namespace DocumentSection

def ofFields? (part title entries : Value) : Option DocumentSection := do
  let part ← Section.ofJson? part
  let title ← title.string?
  let entries ← Entry.listOfJson? entries
  pure ⟨part, title, entries⟩

def ofJson? : Value → Option DocumentSection
  | .array [part, title, entries] => ofFields? part title entries
  | .object members => do
      let part ← Value.required? ["section"] members
      let title ← Value.required? ["title"] members
      let entries ← Value.required? ["entries"] members
      ofFields? part title entries
  | _ => none

def toJson (s : DocumentSection) : Value :=
  .object [("section", s.part.toJson), ("title", .string s.title),
    ("entries", .array (s.entries.map Entry.toJson))]

end DocumentSection

namespace Document

def ofFields? (title sections : Value) : Option Document := do
  let title ← title.string?
  match sections with
  | .array items => pure ⟨title, ← items.mapM DocumentSection.ofJson?⟩
  | _ => none

def ofJson? : Value → Option Document
  | .array [title, sections] => ofFields? title sections
  | .object members => do
      let title ← Value.required? ["title"] members
      let sections ← Value.required? ["sections"] members
      ofFields? title sections
  | _ => none

def toJson (d : Document) : Value :=
  .object [("title", .string d.title), ("sections", .array (d.sections.map DocumentSection.toJson))]

/-- Reads the text of a document. -/
def read? (text : String) : Option Document := (Value.read? text).bind ofJson?

/-- The text of a document. -/
def write (d : Document) : String := d.toJson.pretty

end Document

end Glossary
