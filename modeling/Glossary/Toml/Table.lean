/-!
# TOML tables

The data that a TOML text denotes, and how its tables grow. A table can be opened by a header,
written in braces, implied by a longer header, or made by keys with dots; the way in which it was
made decides who may add to it later. Adding never overwrites.
-/

namespace Glossary.Toml

/-- How a table came to be. -/
inductive Making where
  /-- By a header of its own. -/
  | header
  /-- As a value in braces. -/
  | braces
  /-- By the header of a table inside. -/
  | implied
  /-- By a key with dots. -/
  | dots
  deriving DecidableEq, Repr

/-- Whether a header, or a key with dots, may lead through a table. -/
def Making.admits (byDots : Bool) : Making → Bool
  | .header => !byDots
  | .braces => false
  | .implied | .dots => true

/-- What a TOML text denotes. Floats, dates and times stand as they are written. -/
inductive Value where
  | string (s : String)
  | integer (n : Int)
  | float (literal : String)
  | bool (b : Bool)
  /-- A date, a time, or both. -/
  | moment (literal : String)
  | array (items : List Value)
  | table (making : Making) (members : List (String × Value))
  /-- Tables under headers of one name. -/
  | tables (items : List (List (String × Value)))
  deriving Repr

/-- What a table holds. -/
abbrev Members := List (String × Value)

/-- A key: where its table is, and its name there. -/
structure Key where
  path : List String
  name : String
  deriving DecidableEq, Repr

namespace Members

/-- Adds a member. Its name must be new. -/
def add? (ms : Members) (name : String) (v : Value) : Option Members :=
  if (ms.lookup name).isSome then none else some (ms ++ [(name, v)])

/-- Gives a member another value. -/
def replace (ms : Members) (name : String) (v : Value) : Members :=
  ms.map fun m => if m.1 = name then (name, v) else m

/-- Changes the table that a path leads to. Tables that are missing on the way are made; of
tables under one header the path leads through the last. -/
def change? (byDots : Bool) (f : Making → Members → Option Members) :
    List String → Making → Members → Option Members
  | [], making, ms => f making ms
  | name :: rest, _, ms =>
      match ms.lookup name with
      | none => do
          let making := if byDots then .dots else .implied
          let inner ← change? byDots f rest making []
          pure (ms ++ [(name, .table making inner)])
      | some (.table making inner) =>
          if making.admits byDots then do
            let inner ← change? byDots f rest making inner
            pure (replace ms name (.table making inner))
          else none
      | some (.tables items) => do
          let last ← items.getLast?
          let last ← change? byDots f rest .header last
          pure (replace ms name (.tables (items.dropLast ++ [last])))
      | some _ => none

/-- Adds the member that a key names. A key with dots adds to tables made by dots only. -/
def assign? (ms : Members) (key : Key) (v : Value) : Option Members :=
  if key.path = [] then add? ms key.name v
  else
    change? true (fun making inner => if making = .dots then add? inner key.name v else none)
      key.path .header ms

/-- Adds several members, one after the other. -/
def assignAll? (ms : Members) (assignments : List (Key × Value)) : Option Members :=
  assignments.foldlM (fun ms a => assign? ms a.1 a.2) ms

end Members

/-- A header and what stands below it. -/
structure Section where
  key : Key
  /-- Whether the header may occur again, each time with a table of its own. -/
  repeated : Bool
  assignments : List (Key × Value)

/-- Adds the table of a section. A table that a header inside has implied may still get its own
header, once. -/
def Members.addSection? (root : Members) (s : Section) : Option Members :=
  change? false (fun _ ms => do
    match ms.lookup s.key.name, s.repeated with
    | none, false =>
        let inner ← assignAll? [] s.assignments
        pure (ms ++ [(s.key.name, .table .header inner)])
    | some (.table .implied inner), false =>
        let inner ← assignAll? inner s.assignments
        pure (replace ms s.key.name (.table .header inner))
    | none, true =>
        let inner ← assignAll? [] s.assignments
        pure (ms ++ [(s.key.name, .tables [inner])])
    | some (.tables items), true =>
        let inner ← assignAll? [] s.assignments
        pure (replace ms s.key.name (.tables (items ++ [inner])))
    | _, _ => none) s.key.path .header root

end Glossary.Toml
