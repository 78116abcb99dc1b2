/-!
# JSON values

The data that a JSON text denotes. Members of an object keep their order, and a key may occur
again. Numbers stand as they are written, because the program writes counts and reads none.
-/

namespace Glossary.Json

/-- What a JSON text denotes. -/
inductive Value where
  | null
  | bool (b : Bool)
  /-- A number, by its digits. -/
  | number (literal : String)
  | string (s : String)
  /-- A well-formed literal that denotes no text: a string with half of a surrogate pair, or an
  object with such a key. -/
  | unpaired
  | array (items : List Value)
  | object (members : List (String × Value))
  deriving Repr

namespace Value

/-- A count. -/
def count (n : Nat) : Value := .number (toString n)

/-- A text that may be missing. -/
def optional : Option String → Value
  | none => .null
  | some s => .string s

/-- The values of a key; `names` are its spellings. -/
def valuesOf (names : List String) (members : List (String × Value)) : List Value :=
  (members.filter fun m => names.contains m.1).map (·.2)

/-- The value of a key that must occur once. -/
def required? (names : List String) (members : List (String × Value)) : Option Value :=
  match valuesOf names members with
  | [v] => some v
  | _ => none

/-- The value of a key that may be missing, but must not occur twice. -/
def optional? (names : List String) (members : List (String × Value)) : Option (Option Value) :=
  match valuesOf names members with
  | [] => some none
  | [v] => some (some v)
  | _ => none

def string? : Value → Option String
  | .string s => some s
  | _ => none

end Value

end Glossary.Json
