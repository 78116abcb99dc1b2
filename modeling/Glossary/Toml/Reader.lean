import Glossary.Toml.Moment
import Glossary.Toml.Number
import Glossary.Toml.Quotation
import Glossary.Toml.Table

/-!
# Reading TOML

A TOML text is a list of lines: assignments, headers, comments and nothing. It is read into
statements first, then the statements are cut at the headers into sections, and the sections
build the tables.
-/

namespace Glossary.Toml

namespace Reader

/-- How many parts a key has at most, and how deep values are nested at most. -/
def depthLimit : Nat := 79

def skipSpace (s : List Char) : List Char := s.dropWhile isSpace

/-- What follows a comment that starts here. A comment ends in front of the line break. -/
def skipComment (s : List Char) : List Char :=
  match s with
  | '#' :: rest => rest.dropWhile isPrintable
  | _ => s

/-- What follows a line of which nothing but blanks and a comment is left. -/
def endOfLine? (s : List Char) : Option (List Char) :=
  match skipComment (skipSpace s) with
  | [] => some []
  | rest => dropBreak? rest

/-- Drops blanks, comments and line breaks; nothing if a comment or a line break is not right. -/
def skipLines? (fuel : Nat) (s : List Char) : Option (List Char) :=
  match fuel with
  | 0 => none
  | fuel + 1 =>
      match skipSpace s with
      | '#' :: rest => dropBreak? (rest.dropWhile isPrintable) >>= skipLines? fuel
      | '\n' :: rest => skipLines? fuel rest
      | '\r' :: rest => dropBreak? ('\r' :: rest) >>= skipLines? fuel
      | rest => some rest

/-- The characters of a key without quotes. -/
def isBare (c : Char) : Bool := c.isAlphanum || c == '-' || c == '_'

/-- One part of a key and what follows. -/
def keyPart (s : List Char) : Option (List Char × List Char) :=
  match s with
  | '"' :: rest => quoted rest #[]
  | '\'' :: rest => literal rest #[]
  | _ => if s.head?.any isBare then some (s.takeWhile isBare, s.dropWhile isBare) else none

/-- The parts of a key, at most so many, and what follows the blanks behind them. -/
def keyParts : Nat → List Char → Option (List String × List Char)
  | 0, _ => none
  | n + 1, s => do
      let (part, rest) ← keyPart (skipSpace s)
      match skipSpace rest with
      | '.' :: rest =>
          let (parts, rest) ← keyParts n rest
          pure (String.ofList part :: parts, rest)
      | rest => pure ([String.ofList part], rest)

/-- A key and what follows the blanks behind it. -/
def key (s : List Char) : Option (Key × List Char) := do
  let (parts, rest) ← keyParts depthLimit s
  let name ← parts.getLast?
  pure (⟨parts.dropLast, name⟩, rest)

/-- A key, an equals sign, and what follows the blanks behind it. -/
def keyAndSign (s : List Char) : Option (Key × List Char) := do
  let (k, rest) ← key s
  match rest with
  | '=' :: rest => pure (k, skipSpace rest)
  | _ => none

/-- What follows a given word. -/
def word (w : String) (v : Value) (s : List Char) : Option (Value × List Char) :=
  if w.toList.isPrefixOf s then some (v, s.drop w.length) else none

/-- A date, a time or a number, and what follows. -/
def scalar (s : List Char) : Option (Value × List Char) :=
  match moment? s with
  | some found =>
      found.map fun rest => (.moment (String.ofList (s.take (s.length - rest.length))), rest)
  | none =>
      (number s).map fun (n, rest) =>
        match n with
        | .integer n => (.integer n, rest)
        | .float literal => (.float (String.ofList literal), rest)

mutual

/-- A value and what follows it. `depth` says how many brackets may still be opened. Every call
hands on less fuel; twice the length of the text is always enough. -/
def value (fuel depth : Nat) (s : List Char) : Option (Value × List Char) :=
  match fuel with
  | 0 => none
  | fuel + 1 =>
      match s with
      | '"' :: _ | '\'' :: _ => (quotation s).map fun (t, rest) => (.string (String.ofList t), rest)
      | '[' :: rest => if depth = 0 then none else items fuel (depth - 1) rest []
      | '\x7b' :: rest =>
          if depth = 0 then none
          else
            match skipSpace rest with
            | '\x7d' :: rest => some (.table .braces [], rest)
            | rest => assignments fuel (depth - 1) rest []
      | 't' :: _ => word "true" (.bool true) s
      | 'f' :: _ => word "false" (.bool false) s
      | _ => scalar s

/-- The items of an array up to its end; `found` holds those read, last first. A comma may stand
behind the last item, and items may stand on lines of their own. -/
def items (fuel depth : Nat) (s : List Char) (found : List Value) : Option (Value × List Char) :=
  match fuel with
  | 0 => none
  | fuel + 1 => do
      match ← skipLines? (s.length + 1) s with
      | ']' :: rest => some (.array found.reverse, rest)
      | s =>
          let (v, rest) ← value fuel depth s
          match ← skipLines? (rest.length + 1) rest with
          | ',' :: rest => items fuel depth rest (v :: found)
          | ']' :: rest => some (.array (v :: found).reverse, rest)
          | _ => none

/-- The assignments of a table in braces up to its end, all on one line, with commas between;
`found` holds those read, last first. -/
def assignments (fuel depth : Nat) (s : List Char) (found : List (Key × Value)) :
    Option (Value × List Char) :=
  match fuel with
  | 0 => none
  | fuel + 1 => do
      let (k, rest) ← keyAndSign s
      let (v, rest) ← value fuel depth rest
      match skipSpace rest with
      | ',' :: rest => assignments fuel depth rest ((k, v) :: found)
      | '\x7d' :: rest => do
          let members ← Members.assignAll? [] ((k, v) :: found).reverse
          some (.table .braces members, rest)
      | _ => none

end

/-- What stands on a line. -/
inductive Statement where
  | header (key : Key) (repeated : Bool)
  | assignment (key : Key) (v : Value)

/-- An assignment or a header, and what follows. -/
def statement (s : List Char) : Option (Statement × List Char) :=
  match s with
  | '[' :: '[' :: rest => do
      let (k, rest) ← key rest
      match rest with
      | ']' :: ']' :: rest => pure (.header k true, rest)
      | _ => none
  | '[' :: rest => do
      let (k, rest) ← key rest
      match rest with
      | ']' :: rest => pure (.header k false, rest)
      | _ => none
  | _ => do
      let (k, rest) ← keyAndSign s
      let (v, rest) ← value (2 * rest.length + 2) depthLimit rest
      pure (.assignment k v, rest)

/-- The statements of a text. Every line takes at least one character, so the length of the text
is fuel enough. -/
def statements (fuel : Nat) (s : List Char) (found : Array Statement) : Option (List Statement) :=
  match fuel with
  | 0 => none
  | fuel + 1 =>
      match skipSpace s with
      | [] => some found.toList
      | rest =>
          match rest.head? with
          | some '#' | some '\n' | some '\r' => do statements fuel (← endOfLine? rest) found
          | _ => do
              let (st, rest) ← statement rest
              statements fuel (← endOfLine? rest) (found.push st)

/-- The assignments in front of the first header, and the sections. -/
def sections : List Statement → List (Key × Value) × List Section
  | [] => ([], [])
  | .assignment k v :: rest =>
      let (above, sections) := sections rest
      ((k, v) :: above, sections)
  | .header k repeated :: rest =>
      let (above, sections) := sections rest
      ([], ⟨k, repeated, above⟩ :: sections)

/-- Drops the mark that may stand in front of a text. -/
def dropMark (s : List Char) : List Char :=
  match s with
  | '\ufeff' :: rest => rest
  | _ => s

end Reader

/-- The table that a TOML text denotes. -/
def Members.read? (text : String) : Option Members := do
  let s := Reader.dropMark text.toList
  let (above, sections) := Reader.sections (← Reader.statements (s.length + 1) s #[])
  let root ← Members.assignAll? [] above
  sections.foldlM Members.addSection? root

end Glossary.Toml
