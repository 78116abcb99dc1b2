import Glossary.ErrorCode
import Glossary.Generated
import Glossary.Log.Event
import Glossary.Session

/-!
# What is reported

The work of the program is done by functions that tell nothing. What the log says about a piece
of work is computed here, from what went in and what came out, in the order in which it happened.
-/

namespace Glossary.Report

/-- A count as context. -/
def count (key : String) (n : Nat) : String × String := (key, toString n)

/-- A scan that did not come to its end. -/
def scanFailed (e : ScanError) : Event :=
  match e with
  | .inputTooLarge size =>
      .error e.code "Input exceeds scan limit" [count "size" size, count "max" Limits.maxInputSize]
  | .tooManyTokens _ => .error e.code "Token limit exceeded" [count "max" Limits.maxTokenCount]

/-- A scan of a whole text that gave `tokens` tokens. -/
def scanned (text : String) (tokens : Nat) : Event :=
  .success .scanComplete "Scan complete" [count "tokens" tokens, count "bytes" text.utf8ByteSize]

/-- A scan of a whole text. -/
def tokenize (text : String) : Except ScanError (Array Token) → List Event
  | .error e => [scanFailed e]
  | .ok ts => [scanned text ts.size]

/-- A scan for the first tokens of a text, which tells of failures only. -/
def scan {α : Type} : Except ScanError α → List Event
  | .error e => [scanFailed e]
  | .ok _ => []

/-- A search for the token at an offset. -/
def seek {α : Type} (offset : Nat) : Except ScanError (Option α) → List Event
  | .error e => [scanFailed e]
  | .ok none => [.debug none "No token at offset" [count "offset" offset]]
  | .ok (some _) => []

/-- An analysis of a text. -/
def analyze (text : String) : Except AnalysisError Analysis → List Event
  | .error (.scan e) => [scanFailed e]
  | .ok a =>
      [scanned text a.size,
        .success .analysisComplete "Analysis pass complete"
          [count "matches" a.size, count "identifiers" (a.count .identifier)]]

/-- A note asked for at an offset. -/
def hover (offset : Nat) (r : Except AnalysisError (Option Match)) : List Event :=
  match r with
  | .error (.scan e) => [scanFailed e]
  | .ok found => seek offset (.ok found)

/-- A reference that was read. -/
def reference (r : Reference.Reading) : List Event :=
  r.progress.skipped.toList.map fun token =>
    .debug none "Skipping entry outside any section" [("token", token)]

/-- Entries that were loaded in order. -/
def load (es : List Entry) : List Event :=
  (Store.displaced es).map (fun e =>
    .debug (some .duplicateEntry) "Duplicate dictionary token overwritten"
      [("token", e.token), ("previous_category", e.category.name)]) ++
  match Store.load es with
  | .error _ => []
  | .ok s => [.success .dictionaryLoaded "Dictionary loaded" [count "entries" s.size]]

/-- A store loaded from a reference. -/
def ofReference (source : String) : List Event :=
  let r := Reference.read source
  reference r ++
  match r.result with
  | .error _ => []
  | .ok parsed => load (merge parsed)

/-- A store loaded from JSON. -/
def ofJson (text : String) : List Event :=
  match Entry.readList? text with
  | none => []
  | some es => load es

/-- A reference turned into data. -/
def generate (source : String) : List Event :=
  let r := Reference.read source
  reference r ++
  match r.result with
  | .error _ => []
  | .ok parsed =>
      let g := Generated.ofEntries "" parsed
      [.debug none "Merged markdown reference"
        [count "parsed" parsed.length, count "unique" g.definitions.length,
          count "shadowed" g.shadowed.length]]

/-- An edit noted by a session. -/
def edited (s : Session) : Event :=
  .debug none "Edit recorded, analysis scheduled" [count "delay_ms" s.debouncer.milliseconds]

end Glossary.Report
