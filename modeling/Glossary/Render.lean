import Glossary.Analysis.Groups
import Glossary.Language
import Glossary.Source.SourceMap
import Glossary.Text.Column

/-!
# Views of an analysis

An analysis as text: one line for each match, a tree of groups, and the note shown for the token
under a cursor.
-/

namespace Glossary.Render

/-- The line of a match: where it stands, its category and its text. -/
def listingLine (m : SourceMap) (t : Match) : String :=
  Text.column 12 (m.span t.start t.stop).display ++ " " ++ Text.column 18 t.category.name ++ " " ++
    t.text ++ "\n"

/-- One line for each match. -/
def listing (a : Analysis) (m : SourceMap) : String :=
  String.join (a.found.toList.map (listingLine m))

/-- The lines of a group: its label and how often its texts occur, then the texts. -/
def groupLines (g : Group) : List String :=
  s!"{g.label} ({g.occurrences})\n" :: g.tokens.map fun t => s!"  {t.text} x{t.count}\n"

/-- A tree of groups. -/
def tree (gs : List Group) : String := String.join (gs.flatMap groupLines)

/-- Three backticks, which open and close an example. -/
def fence : String := "\x60\x60\x60"

/-- What a note says about the token itself. -/
def noteHead (m : Match) : String :=
  s!"**\x60{m.text}\x60** *({m.category.name})*\n\n{m.description}"

/-- The note for a token, with its example between fences if that is wanted. -/
def note (m : Match) (l : Language) (withExample : Bool) : String :=
  match (if withExample then m.example? else none) with
  | some text => noteHead m ++ s!"\n\n{fence}{l.name}\n{text}\n{fence}"
  | none => noteHead m

end Glossary.Render
