import Glossary.Analysis.Groups
import Glossary.Exchange
import Glossary.Language

/-!
# Analyses as data

The JSON form of matches, groups and of all that is known about a file. Objects have their fields
in a fixed order; a match without an example has no such field.
-/

namespace Glossary

open Json (Value)

def Match.toJson (m : Match) : Value :=
  .object ([("text", .string m.text), ("category", m.category.toJson),
    ("description", .string m.description)] ++
    (m.example?.map fun text => ("example", Value.string text)).toList ++
    [("start_offset", .count m.start), ("end_offset", .count m.stop)])

def GroupedToken.toJson (t : GroupedToken) : Value :=
  .object [("text", .string t.text), ("description", .string t.description),
    ("count", .count t.count), ("first_offset", .count t.firstOffset)]

def Group.toJson (g : Group) : Value :=
  .object [("category", g.category.toJson), ("label", .string g.label),
    ("tokens", .array (g.tokens.map GroupedToken.toJson))]

/-- All that is known about a file: `file` is its path as it was given. -/
def Analysis.toJson (a : Analysis) (file : Path) (l : Language) (includeIdentifiers : Bool) :
    Value :=
  .object [("file", .string file.text), ("language", .string l.name),
    ("status", .string a.status.display),
    ("matches", .array (a.found.toList.map Match.toJson)),
    ("counts", .object (a.counts.map fun p => (p.1.name, .count p.2))),
    ("groups", .array ((a.groups includeIdentifiers).map Group.toJson))]

/-- What is known about the token under a cursor, null if there is none. -/
def Match.noteJson : Option Match → Value
  | none => .null
  | some m => .object [("token", m.toJson)]

end Glossary
