import Glossary.Json.Writer
import Glossary.Limits
import Glossary.Log.Code
import Glossary.Log.Timestamp
import Glossary.Source.Position

/-!
# Log events

What the program tells about its work: how important it is, a code, a message, perhaps a place in
a source, and pairs of context. Messages and contexts are bounded, so an event stays small
whatever it is made from.

## Main results

* `Event.truncate_of_le` — a message within the limit is kept.
* `Context.lookup_insert` — setting the value of a key changes that value only.
-/

namespace Glossary

/-- How important an event is. -/
inductive LogLevel where
  | error
  | warning
  | info
  | debug
  deriving DecidableEq, Repr

namespace LogLevel

def name : LogLevel → String
  | .error => "ERROR"
  | .warning => "WARN"
  | .info => "INFO"
  | .debug => "DEBUG"

/-- The larger, the less important. -/
def rank : LogLevel → Nat
  | .error => 1
  | .warning => 2
  | .info => 3
  | .debug => 4

end LogLevel

/-- How much of the log is shown. -/
inductive Verbosity where
  | off
  | error
  | warning
  | info
  | debug
  | trace
  deriving DecidableEq, Repr

namespace Verbosity

def rank : Verbosity → Nat
  | .off => 0
  | .error => 1
  | .warning => 2
  | .info => 3
  | .debug => 4
  | .trace => 5

/-- Whether events of a level are shown. -/
def shows (v : Verbosity) (l : LogLevel) : Bool := l.rank ≤ v.rank

/-- The verbosity with a given name, in capitals or small letters of ASCII. -/
def ofName? (name : String) : Option Verbosity :=
  match name.toLower with
  | "off" => some .off
  | "error" => some .error
  | "warn" => some .warning
  | "info" => some .info
  | "debug" => some .debug
  | "trace" => some .trace
  | _ => none

end Verbosity

/-- Pairs of context, in ascending order of their keys. -/
abbrev Context := List (String × String)

namespace Context

/-- Sets the value of a key, at the key's place in the order. -/
def insert (key value : String) : Context → Context
  | [] => [(key, value)]
  | (k, v) :: rest =>
      match compare key k with
      | .lt => (key, value) :: (k, v) :: rest
      | .eq => (key, value) :: rest
      | .gt => (k, v) :: insert key value rest

theorem lookup_insert (key value k : String) (c : Context) :
    (insert key value c).lookup k = if k == key then some value else c.lookup k := by
  fun_induction insert key value c with
  | case1 =>
      rw [List.lookup_cons]
      split <;> simp_all
  | case2 l v rest h => simp only [List.lookup_cons]; split <;> simp_all
  | case3 l v rest h =>
      obtain rfl := Std.LawfulEqOrd.eq_of_compare h
      simp only [List.lookup_cons]
      split <;> simp_all
  | case4 l v rest h ih =>
      simp only [List.lookup_cons, ih]
      split <;> split <;> simp_all

/-- Sets the value of a key, unless the key would be one too many. -/
def put (c : Context) (key value : String) : Context :=
  if c.length < Limits.maxContextEntries ∨ c.any (·.1 == key) then insert key value c else c

/-- Sets several values, one after the other. -/
def putAll (c : Context) (pairs : List (String × String)) : Context :=
  pairs.foldl (fun c p => c.put p.1 p.2) c

end Context

/-- Something worth telling. -/
structure Event where
  level : LogLevel
  code : Code
  message : String
  span? : Option Span
  context : Context
  deriving DecidableEq, Repr

namespace Event

/-- The longest beginning of a text that has at most `limit` bytes. -/
def takeBytes (limit : Nat) (s : List Char) (taken : Array Char) : List Char :=
  match s with
  | [] => taken.toList
  | c :: cs =>
      if c.utf8Size ≤ limit then takeBytes (limit - c.utf8Size) cs (taken.push c) else taken.toList

/-- A message that is too long is cut at the limit, before the character that does not fit. -/
def truncate (message : String) : String :=
  if Limits.maxLogMessageLength < message.utf8ByteSize then
    String.ofList (takeBytes Limits.maxLogMessageLength message.toList #[]) ++ "..."
  else message

theorem truncate_of_le {message : String}
    (h : message.utf8ByteSize ≤ Limits.maxLogMessageLength) : truncate message = message := by
  rw [truncate, if_neg (by omega)]

/-- An event without a place. -/
def make (level : LogLevel) (code : Code) (message : String)
    (context : List (String × String)) : Event :=
  ⟨level, code, truncate message, none, Context.putAll [] context⟩

def error (code : Code) (message : String) (context : List (String × String)) : Event :=
  make .error code message context

/-- The end of some work that went well. -/
def success (code : Code) (message : String) (context : List (String × String)) : Event :=
  make .info code message context

def info (message : String) (context : List (String × String)) : Event :=
  make .info .plainInfo message context

/-- A warning, with a code of its own or without. -/
def warning (code : Option Code) (message : String) (context : List (String × String)) : Event :=
  make .warning (code.getD .plainWarning) message context

/-- A detail, with a code of its own or without. -/
def debug (code : Option Code) (message : String) (context : List (String × String)) : Event :=
  make .debug (code.getD .plainDebug) message context

/-- The event at a place. -/
def withSpan (e : Event) (s : Span) : Event := { e with span? := some s }

def isError (e : Event) : Bool := e.level == .error

/-- The event on one line, if its message and context are. -/
def text (e : Event) : String :=
  let place := (e.span?.map fun s => s!" at {s.start.display}").getD ""
  s!"[{e.level.name}] {e.code.text} - {e.message}{place}" ++
    String.join (e.context.map fun p => s!" {p.1}={p.2}")

/-- The event as data, at a point in time; the keys are in ascending order. -/
def toJson (e : Event) (time : Timestamp) : Json.Value :=
  .object (
    [("category", .string e.code.area), ("code", .string e.code.text)] ++
    (if e.context = [] then []
      else [("context", .object (e.context.map fun p => (p.1, .string p.2)))]) ++
    [("level", .string e.level.name), ("message", .string e.message),
      ("severity", .string e.code.severity.name)] ++
    (e.span?.map fun s => ("span", Json.Value.object [
      ("end_column", .count s.stop.column), ("end_line", .count s.stop.line),
      ("start_column", .count s.start.column), ("start_line", .count s.start.line)])).toList ++
    [("timestamp", .string time.text)])

/-- The event as data on one line. -/
def jsonText (e : Event) (time : Timestamp) : String := (e.toJson time).compact

end Event

/-- How log lines are written. -/
inductive LogFormat where
  | text
  | json
  deriving DecidableEq, Repr

/-- The line of an event. -/
def Event.line (e : Event) (format : LogFormat) (time : Timestamp) : String :=
  match format with
  | .text => e.text
  | .json => e.jsonText time

end Glossary
