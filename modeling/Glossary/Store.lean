import Glossary.Document
import Glossary.Exchange
import Glossary.Language
import Glossary.Merge
import Glossary.Reference

/-!
# Stores

A store is a dictionary that is ready for use: at most one entry for each token, every one of
them sound. It is loaded from entries in order, of which the later one wins, from a reference,
which is merged first, or from JSON. Loading stops at the first entry that cannot be taken.

## Main results

* `Store.fill_append` — loading goes on where it stood.
-/

namespace Glossary

/-- Why a dictionary is not loaded. -/
inductive DictionaryError where
  | flawed (flaw : EntryFlaw)
  | tooManyEntries
  | invalidJson
  | reference (error : ReferenceError)
  deriving DecidableEq, Repr

/-- The wording of each cause. -/
def DictionaryError.message : DictionaryError → String
  | .flawed flaw => flaw.message
  | .tooManyEntries => s!"Dictionary exceeds {Limits.maxEntries} entries"
  | .invalidJson => "Invalid dictionary JSON: not a list of entries"
  | .reference error => error.message

/-- A loaded dictionary. The shadowed entries are shown in documents and never looked up. -/
structure Store where
  entries : Std.HashMap String Entry
  shadowed : List Entry

/-- A dictionary while it is being loaded: how many entries were taken, and which of them a later
entry with the same token displaced, in order. -/
structure Loading where
  entries : Std.HashMap String Entry
  count : Nat
  displaced : Array Entry

namespace Loading

def start : Loading := ⟨∅, 0, #[]⟩

/-- Puts an entry in, over the one with its token if there is one. -/
def insert (l : Loading) (e : Entry) : Loading :=
  ⟨l.entries.insert e.token e, l.count + 1,
    match l.entries[e.token]? with
    | some old => l.displaced.push old
    | none => l.displaced⟩

/-- Why the next entry is not taken. -/
def obstacle? (l : Loading) (e : Entry) : Option DictionaryError :=
  if Limits.maxEntries ≤ l.count then some .tooManyEntries else e.flaw?.map .flawed

/-- Takes entries in order, up to the first that is not taken. -/
def fill (l : Loading) : List Entry → Loading × Option DictionaryError
  | [] => (l, none)
  | e :: es =>
      match l.obstacle? e with
      | some error => (l, some error)
      | none => (l.insert e).fill es

theorem fill_append (l : Loading) (es fs : List Entry) :
    l.fill (es ++ fs) =
      match l.fill es with
      | (l', none) => l'.fill fs
      | stopped => stopped := by
  induction es generalizing l with
  | nil => rfl
  | cons e es ih =>
      simp only [List.cons_append, fill]
      cases l.obstacle? e with
      | some error => rfl
      | none => exact ih _

end Loading

namespace Store

/-- The dictionary without entries. -/
def empty : Store := ⟨∅, []⟩

/-- Loads entries in order. -/
def load (es : List Entry) : Except DictionaryError Store :=
  match Loading.start.fill es with
  | (l, none) => .ok ⟨l.entries, []⟩
  | (_, some error) => .error error

/-- The entries that loading a list displaces before it ends. -/
def displaced (es : List Entry) : List Entry := (Loading.start.fill es).1.displaced.toList

/-- Loads a reference. -/
def ofReference (source : String) : Except DictionaryError Store := do
  let parsed ← (Reference.parse source).mapError DictionaryError.reference
  let merged := merge parsed
  let store ← load merged
  pure { store with shadowed := shadowedConstants parsed merged }

/-- Loads a JSON list of entries. -/
def ofJson (text : String) : Except DictionaryError Store :=
  match Entry.readList? text with
  | some es => load es
  | none => .error .invalidJson

/-- The dictionary that comes with the program. -/
def builtin (l : Language) : Except DictionaryError Store := ofReference l.reference

/-- The entry for exactly this token. -/
def find? (s : Store) (token : String) : Option Entry := s.entries[token]?

def contains (s : Store) (token : String) : Bool := s.entries.contains token

/-- Number of tokens. -/
def size (s : Store) : Nat := s.entries.size

/-- The entries that can be looked up, in no particular order. -/
def toList (s : Store) : List Entry := s.entries.toList.map (·.2)

/-- The entries that can be looked up, in the order of their tokens. -/
def sorted (s : Store) : List Entry := sortEntries s.toList

/-- The document that shows the store. -/
def document (s : Store) (title : String) : Document :=
  .ofEntries title (s.toList ++ s.shadowed)

end Store

end Glossary
