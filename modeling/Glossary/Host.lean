import Glossary.Log.Event
import Glossary.Log.Timestamp
import Glossary.Path

/-!
# The host

What the program asks of the machine it runs on: looking at files, reading and writing them, and
telling what happens. All commands are written against these few requests, so they run on a real
machine and on one in memory alike. Every request is a separate observation; between two of them
the files may change.
-/

namespace Glossary

/-- Why the host does not do what it is asked for. -/
inductive HostError where
  | notFound
  | permissionDenied
  | alreadyExists
  | notFolder
  | isFolder
  | nameTooLong
  /-- No file can have a name with a NUL character. -/
  | nulInName
  /-- What was read is not UTF-8. -/
  | notText
  | other (text : String)
  deriving DecidableEq, Repr

def HostError.message : HostError → String
  | .notFound => "No such file or directory (os error 2)"
  | .permissionDenied => "Permission denied (os error 13)"
  | .alreadyExists => "File exists (os error 17)"
  | .notFolder => "Not a directory (os error 20)"
  | .isFolder => "Is a directory (os error 21)"
  | .nameTooLong => "File name too long (os error 36)"
  | .nulInName => "file name contained an unexpected NUL byte"
  | .notText => "stream did not contain valid UTF-8"
  | .other text => text

/-- A machine that the program can run on. -/
class Host (m : Type → Type) where
  /-- The size of a file in bytes. Folders have one as well. -/
  size : Path → m (Except HostError Nat)
  /-- When a file was last changed, if that can be told. -/
  modified? : Path → m (Option Timestamp)
  read : Path → m (Except HostError ByteArray)
  /-- Makes a file, or overwrites it. -/
  write : Path → String → m (Except HostError Unit)
  isFolder : Path → m Bool
  /-- Makes a folder in one that exists. -/
  makeFolder : Path → m (Except HostError Unit)
  /-- Writes an event to the log. -/
  tell : Event → m Unit

namespace Host

variable {m : Type → Type} [Monad m]

/-- Puts a request to the host; a refusal becomes an error. -/
def attempt {α ε : Type} (asError : HostError → ε) (request : m (Except HostError α)) :
    ExceptT ε m α :=
  ExceptT.mk do pure ((← request).mapError asError)

variable [Host m]

/-- A computation that may fail runs on the same machine. -/
instance {ε : Type} : Host (ExceptT ε m) where
  size p := ExceptT.lift (size p)
  modified? p := ExceptT.lift (modified? p)
  read p := ExceptT.lift (read p)
  write p text := ExceptT.lift (write p text)
  isFolder p := ExceptT.lift (isFolder p)
  makeFolder p := ExceptT.lift (makeFolder p)
  tell e := ExceptT.lift (tell e)

/-- Writes events to the log, in order. -/
def tellAll (events : List Event) : m Unit := events.forM tell

/-- Reads a file as text. -/
def readText (p : Path) : m (Except HostError String) := do
  pure ((← read p) >>= fun bytes => (String.fromUTF8? bytes).elim (.error .notText) .ok)

/-- What came of making a folder. It is fine if the folder is there already. -/
def settle (p : Path) : Except HostError Unit → m (Except HostError Unit)
  | .ok () => pure (.ok ())
  | .error e => do pure (if ← isFolder p then .ok () else .error e)

/-- Makes a folder, and first what is missing above it. `above` holds the steps of the path above
the folder, the nearest first; folders that were made stay even if a later one cannot be made. -/
def makeBelow (p : Path) : List String → m (Except HostError Unit)
  | [] => do settle p (← makeFolder p)
  | step :: rest => do
      match ← makeFolder p with
      | .error .notFound =>
          match ← makeBelow (p.climb (step :: rest).reverse) rest with
          | .ok () => settle p (← makeFolder p)
          | .error e => pure (.error e)
      | r => settle p r

/-- Makes a folder and all that are missing above it. An empty path asks for nothing. -/
def makeFolders (p : Path) : m (Except HostError Unit) :=
  if p.text = "" then pure (.ok ()) else makeBelow p p.steps.dropLast.reverse

end Host

end Glossary
