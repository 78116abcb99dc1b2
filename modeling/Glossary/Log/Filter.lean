import Glossary.Log.Event
import Glossary.Pattern
import Glossary.Text.Blank

/-!
# Filtering the log

Which log lines are shown. A filter is a list of directives, each a verbosity for the targets
whose names begin in a certain way; of the directives that fit a target, the one with the longest
beginning decides, and of equally long ones the last. Behind a slash, a filter may give a pattern
that must occur in every line shown.

A filter is written as a list with commas: `info`, `lexdoc=debug`, or a beginning alone, which
shows everything. What makes no sense is passed over with a warning.

## Main results

* `set_directives_ne_nil` — after a verbosity is set, some directive decides.
-/

namespace Glossary

/-- How much is shown of some targets; without a beginning, of all. -/
structure Directive where
  beginning? : Option String
  verbosity : Verbosity
  deriving DecidableEq, Repr

/-- The length of the beginning in bytes. -/
def Directive.weight (d : Directive) : Nat := (d.beginning?.map String.utf8ByteSize).getD 0

/-- Whether a directive speaks about a target. -/
def Directive.fits (d : Directive) (target : String) : Bool :=
  d.beginning?.all fun b => b.toList.isPrefixOf target.toList

/-- Which log lines are shown. -/
structure LogFilter where
  directives : List Directive
  /-- What must occur in a line. -/
  pattern? : Option Pattern
  deriving DecidableEq, Repr

namespace LogFilter

/-- Target of all events of the program. -/
def target : String := "lexdoc"

/-- Adds a directive in place of the one with the same beginning. -/
def add (ds : List Directive) (d : Directive) : List Directive :=
  if ds.any (·.beginning? = d.beginning?) then
    ds.map fun e => if e.beginning? = d.beginning? then d else e
  else ds ++ [d]

/-- Sets the verbosity of all targets that no longer beginning fits. -/
def set (f : LogFilter) (v : Verbosity) : LogFilter :=
  { f with directives := add f.directives ⟨none, v⟩ }

theorem set_directives_ne_nil (f : LogFilter) (v : Verbosity) : (f.set v).directives ≠ [] := by
  rw [set, add]
  split
  · next h =>
      obtain ⟨d, hd, -⟩ := List.any_eq_true.1 h
      intro hnil
      simp [List.map_eq_nil_iff.1 hnil] at hd
  · simp

/-- The directive of one item of a list, or the text to warn about. -/
def directive (item : List Char) : Except (List Char) Directive :=
  match item.splitOn '=' with
  | [one] =>
      match Verbosity.ofName? (String.ofList one) with
      | some v => .ok ⟨none, v⟩
      | none => .ok ⟨some (String.ofList one), .trace⟩
  | [one, two] =>
      match Text.trim two with
      | [] => .ok ⟨some (String.ofList one), .trace⟩
      | name =>
          match Verbosity.ofName? (String.ofList name) with
          | some v => .ok ⟨some (String.ofList one), v⟩
          | none => .error name
  | _ => .error item

/-- The warning about something that is passed over. -/
def warning (what : String) : String := s!"warning: {what}, ignoring it"

/-- What is wrong with a text that makes no sense. -/
def badSpec (text : List Char) : String := s!"invalid logging spec '{String.ofList text}'"

/-- Reads a list of directives, with warnings about what was passed over. -/
def readDirectives (list : List Char) : List Directive × List String :=
  let read := (((list.splitOn ',').map Text.trim).filter (· ≠ [])).map directive
  ((read.filterMap Except.toOption).foldl add [],
    read.filterMap fun
      | .error item => some (warning (badSpec item))
      | .ok _ => none)

/-- Reads a filter, with warnings about what was passed over. -/
def read (text : String) : LogFilter × List String :=
  match text.toList.splitOn '/' with
  | [list] =>
      let (directives, warnings) := readDirectives list
      (⟨directives, none⟩, warnings)
  | [list, pattern] =>
      let (directives, warnings) := readDirectives list
      match Pattern.read (String.ofList pattern) with
      | .ok p => (⟨directives, some p⟩, warnings)
      | .error e =>
          (⟨directives, none⟩, warnings ++ [warning s!"invalid regex filter - {e.message}"])
  | _ => (⟨[], none⟩, [warning (badSpec text.toList ++ " (too many '/'s)")])

/-- The verbosity for a target. Without any directives only errors are shown. -/
def verbosity (f : LogFilter) (target : String) : Verbosity :=
  if f.directives = [] then .error
  else
    match (f.directives.mergeSort fun a b => a.weight ≤ b.weight).reverse.find? (·.fits target) with
    | some d => d.verbosity
    | none => .off

/-- Whether a line of an event is shown. -/
def shows (f : LogFilter) (level : LogLevel) (line : String) : Bool :=
  (f.verbosity target).shows level && f.pattern?.all (·.occursIn line)

/-- The filter that the environment asks for, raised by how often more lines were asked for on the
command line. -/
def ofEnvironment (setting? : Option String) (raise : Nat) : LogFilter × List String :=
  let (f, warnings) := read (setting?.getD "warn")
  match raise with
  | 0 => (f, warnings)
  | 1 => (f.set .info, warnings)
  | _ => (f.set .debug, warnings)

end LogFilter

end Glossary
