import Glossary.Source.Search
import Glossary.Store
import Glossary.Token

/-!
# Analyses

An analysis explains every token of a text from a store. A token that the store does not know is
an identifier; that is an answer and not an error. Tokens are looked up by their exact text.

The token at an offset can be asked for in two ways: `Analysis.at?` searches an analysis by
halving, and `Store.hover?` scans the text up to the offset and needs no analysis.
-/

namespace Glossary

/-- What a store says about a token. -/
structure Classification where
  category : Category
  description : String
  example? : Option String
  deriving DecidableEq, Repr

/-- The description of tokens that a store does not know. -/
def unknownDescription : String := "Unknown token"

def Classification.isKnown (c : Classification) : Bool := c.category != .identifier

/-- Looks a token up. -/
def Store.classify (s : Store) (token : String) : Classification :=
  match s.find? token with
  | some e => ⟨e.category, e.description, e.example?⟩
  | none => ⟨.identifier, unknownDescription, none⟩

/-- An explained token; offsets are in characters, the stop is exclusive. -/
structure Match where
  text : String
  category : Category
  description : String
  example? : Option String
  start : Nat
  stop : Nat
  deriving DecidableEq, Repr

namespace Match

/-- A token as a store explains it. -/
def ofToken (s : Store) (t : Token) : Match :=
  let c := s.classify t.text
  ⟨t.text, c.category, c.description, c.example?, t.start, t.stop⟩

/-- Length in characters. -/
def length (m : Match) : Nat := m.stop - m.start

def isEmpty (m : Match) : Bool := m.start == m.stop

/-- Whether the character at `offset` belongs to the match. -/
def covers (m : Match) (offset : Nat) : Bool := m.start ≤ offset && offset < m.stop

/-- Whether a store knows the token. -/
def isKnown (m : Match) : Bool := m.category != .identifier

end Match

/-- Why a text is not analyzed. -/
inductive AnalysisError where
  | scan (error : ScanError)
  deriving DecidableEq, Repr

def AnalysisError.message : AnalysisError → String
  | .scan error => s!"Lexical error: {error.message}"

/-- What a status line says about an analysis. -/
inductive Status where
  | total (count : Nat)
  | atCursor (text : String) (category : Category)
  deriving DecidableEq, Repr

def Status.display : Status → String
  | .total 1 => "1 token"
  | .total count => s!"{count} tokens"
  | .atCursor text category => s!"{category.name}: {text}"

/-- The matches of one text, in order. -/
structure Analysis where
  found : Array Match
  deriving DecidableEq, Repr

namespace Analysis

def size (a : Analysis) : Nat := a.found.size

/-- The match that covers an offset: the first one that stops behind it, if it starts by then. -/
def at? (a : Analysis) (offset : Nat) : Option Match :=
  let index := Search.partitionPoint (fun i => a.found[i]?.any (·.stop ≤ offset)) a.size
  a.found[index]?.filter (·.start ≤ offset)

/-- Number of matches of a category. -/
def count (a : Analysis) (c : Category) : Nat := a.found.toList.countP (·.category == c)

/-- The categories that occur, each with its number of matches. -/
def counts (a : Analysis) : List (Category × Nat) :=
  (Category.all.map fun c => (c, a.count c)).filter (·.2 ≠ 0)

/-- The number of matches. -/
def status (a : Analysis) : Status := .total a.size

/-- The match at a cursor, or the number of matches if there is none. -/
def statusAt (a : Analysis) (offset : Nat) : Status :=
  match a.at? offset with
  | some m => .atCursor m.text m.category
  | none => a.status

end Analysis

namespace Store

/-- Explains every token of a text. -/
def analyze (s : Store) (text : String) : Except AnalysisError Analysis :=
  ((Token.tokenize text).map fun ts => ⟨ts.map (Match.ofToken s)⟩).mapError .scan

/-- Explains the token at an offset. -/
def hover? (s : Store) (text : String) (offset : Nat) : Except AnalysisError (Option Match) :=
  ((Token.at? text offset).map (·.map (Match.ofToken s))).mapError .scan

end Store

end Glossary
