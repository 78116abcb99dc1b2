import Glossary.Host
import Glossary.Language
import Glossary.Source.SourceMap
import Glossary.Text.Quoted
import Glossary.Text.Utf8

/-!
# Source files

A source file is a text with the path that it was read from. The path tells its language, unless
the user names one. Files that are too large are refused before they are read, and a file whose
bytes are not UTF-8 is refused with the place of the first byte that does not fit.

## Main results

* `ofBytes_eq_ok_iff` — which bytes are a source, and of which text.
-/

namespace Glossary

/-- Why a file gives no source. -/
inductive SourceError where
  | notFound (path : Path)
  | unknownLanguage (path : Path)
  | tooLarge (size : Nat)
  | invalidEncoding (path : Path)
  | refused (path : Path) (cause : HostError)
  deriving DecidableEq, Repr

namespace SourceError

/-- What the host's refusal means for a file. -/
def ofHost (path : Path) : HostError → SourceError
  | .notFound => .notFound path
  | cause => .refused path cause

/-- An extension as it is shown in messages. -/
def shownExtension : Option String → String
  | none => "None"
  | some extension => s!"Some({Text.quoted extension})"

def message : SourceError → String
  | .notFound path => s!"File not found: {path.text}"
  | .unknownLanguage path =>
      s!"Cannot determine language for {path.text} (extension {shownExtension path.extension?})"
  | .tooLarge size => s!"File too large: {size} bytes (max: {Limits.maxFileSize})"
  | .invalidEncoding path => s!"Invalid UTF-8 encoding in file: {path.text}"
  | .refused path cause => s!"I/O error reading {path.text}: {cause.message}"

def code : SourceError → Code
  | .notFound _ => .fileNotFound
  | .unknownLanguage _ => .unsupportedLanguage
  | .tooLarge _ => .fileTooLarge
  | .invalidEncoding _ => .invalidEncoding
  | .refused _ _ => .ioError

end SourceError

/-- A text with the path and the size of its file. -/
structure SourceFile where
  path : Path
  /-- In bytes. -/
  size : Nat
  map : SourceMap
  deriving DecidableEq, Repr

namespace SourceFile

/-- A text as if it had been read from a path. -/
def ofText (path : Path) (text : String) (size : Nat) : SourceFile := ⟨path, size, .ofText text⟩

def text (f : SourceFile) : String := f.map.text

/-- The language that the path tells. -/
def language? (f : SourceFile) : Option Language := Language.ofPath? f.path

/-- The language that is asked for, or else the one that the path tells. -/
def resolveLanguage (f : SourceFile) (asked? : Option Language) : Except SourceError Language :=
  match asked? <|> f.language? with
  | some l => .ok l
  | none => .error (.unknownLanguage f.path)

/-- Refuses sizes over the limit. -/
def checkSize (size : Nat) : Except SourceError Unit :=
  if Limits.maxFileSize < size then .error (.tooLarge size) else .ok ()

theorem checkSize_of_le {size : Nat} (h : size ≤ Limits.maxFileSize) : checkSize size = .ok () :=
  if_neg (Nat.not_lt.2 h)

theorem checkSize_of_lt {size : Nat} (h : Limits.maxFileSize < size) :
    checkSize size = .error (.tooLarge size) :=
  if_pos h

/-- The source that bytes hold. -/
def ofBytes (path : Path) (size : Nat) (bytes : ByteArray) : Except SourceError SourceFile :=
  match String.fromUTF8? bytes with
  | some text => .ok (ofText path text size)
  | none => .error (.invalidEncoding path)

/-- A source holds the text that its bytes encode. -/
theorem ofBytes_eq_ok_iff {path : Path} {size : Nat} {bytes : ByteArray} {f : SourceFile} :
    ofBytes path size bytes = .ok f ↔
      ∃ text : String, bytes = text.toUTF8 ∧ f = ofText path text size := by
  unfold ofBytes String.fromUTF8?
  by_cases hvalid : bytes.IsValidUTF8
  · rw [dif_pos hvalid]
    constructor
    · intro h
      exact ⟨String.fromUTF8 bytes hvalid, rfl, (Except.ok.inj h).symm⟩
    · rintro ⟨text, rfl, rfl⟩
      rfl
  · rw [dif_neg hvalid]
    constructor
    · intro h
      cases h
    · rintro ⟨text, rfl, -⟩
      exact absurd text.isValidUTF8 hvalid

theorem ofBytes_eq_error {path : Path} {size : Nat} {bytes : ByteArray}
    (h : ¬ bytes.IsValidUTF8) : ofBytes path size bytes = .error (.invalidEncoding path) := by
  unfold ofBytes String.fromUTF8?
  rw [dif_neg h]

/-- The place of the first byte that is not UTF-8: the end of the text in front of it. -/
def invalidSpan (bytes : ByteArray) : Span :=
  let map := SourceMap.ofText (String.ofList (Text.validPrefix bytes))
  map.span map.charCount map.charCount

/-- What is reported before a file is looked at. -/
def loading (path : Path) : Event :=
  .debug none "Loading source file" [("file", path.text)]

/-- What is reported of a file that is too large. -/
def oversized (path : Path) (size : Nat) : Event :=
  .error .fileTooLarge "File exceeds size limit" [("file", path.text), ("size", toString size)]

/-- What is reported of a file that is not UTF-8. -/
def undecodable (path : Path) (bytes : ByteArray) : Event :=
  (Event.error .invalidEncoding "File is not valid UTF-8" [("file", path.text)]).withSpan
    (invalidSpan bytes)

variable {m : Type → Type} [Monad m] [Host m]

/-- Reads the source from a file: first its size, then its bytes. -/
def load (path : Path) : ExceptT SourceError m SourceFile := do
  Host.tell (loading path)
  let size ← Host.attempt (SourceError.ofHost path) (Host.size path)
  match checkSize size with
  | .error e =>
      Host.tell (oversized path size)
      throw e
  | .ok () =>
      let bytes ← Host.attempt (SourceError.ofHost path) (Host.read path)
      match ofBytes path size bytes with
      | .error e =>
          Host.tell (undecodable path bytes)
          throw e
      | .ok f => pure f

end SourceFile

end Glossary
