/-!
# Lines of a text

Two readings of a text as lines. `pieces` cuts at every newline and loses nothing else: joining
the pieces with newlines gives the text back (`intercalate_pieces`). `lines` is the reading for
documents: a newline ends a line, a carriage return right before it belongs to the line's end,
and a text that ends in a newline has no empty last line.
-/

namespace Glossary.Text

/-- The pieces of a text between newlines; always at least one. -/
def pieces (s : List Char) : List (List Char) := s.splitOn '\n'

theorem intercalate_pieces (s : List Char) : ['\n'].intercalate (pieces s) = s :=
  List.intercalate_splitOn '\n'

/-- Removes one carriage return from the end of a line. -/
def dropReturn (line : List Char) : List Char :=
  if line.getLast? = some '\r' then line.dropLast else line

/-- Removes every carriage return from the end of a line. -/
def dropReturns (line : List Char) : List Char :=
  (line.reverse.dropWhile (· == '\r')).reverse

/-- The lines of a document. The last piece is a line only if it is not empty, and keeps a
carriage return because no newline follows it. -/
def lines (s : List Char) : List (List Char) :=
  let parts := pieces s
  let ended := parts.dropLast.map dropReturn
  match parts.getLast? with
  | some [] | none => ended
  | some last => ended ++ [last]

end Glossary.Text
