import Glossary.Host

/-!
# File trees

Files and folders in memory. A path is followed part by part, and each part but the last must
lead into a folder. Relative paths start at the home folder.
-/

namespace Glossary

/-- What stands at a place. -/
inductive Node where
  | folder
  | file (content : ByteArray) (modified : Timestamp)

/-- A place in a file tree: the names from the root down to it. -/
abbrev Place := List String

/-- Files and folders. -/
structure FileTree where
  home : Place
  nodes : List (Place × Node)

namespace FileTree

/-- A tree that holds the home folder and nothing else. -/
def empty (home : Place) : FileTree :=
  ⟨home, (List.range (home.length + 1)).map fun n => (home.take n, .folder)⟩

def get? (t : FileTree) (place : Place) : Option Node := t.nodes.lookup place

/-- The tree without what stands at a place. -/
def erase (t : FileTree) (place : Place) : FileTree :=
  { t with nodes := t.nodes.filter fun n => !(n.1 == place) }

def put (t : FileTree) (place : Place) (node : Node) : FileTree :=
  { t with nodes := (place, node) :: (t.erase place).nodes }

/-- Goes from a folder to the one that a part of a path names. -/
def enter (t : FileTree) (place : Place) (part : String) : Except HostError Place :=
  if part = "" ∨ part = "." then .ok place
  else if part = ".." then .ok place.dropLast
  else if 255 < part.utf8ByteSize then .error .nameTooLong
  else
    match t.get? (place ++ [part]) with
    | none => .error .notFound
    | some (.file _ _) => .error .notFolder
    | some .folder => .ok (place ++ [part])

/-- What the end of a path stands for: a folder that was reached, or a name in a folder. -/
inductive Ending where
  | reached (folder : Place)
  | named (folder : Place) (name : String)
  deriving DecidableEq, Repr

/-- Follows a path up to its last part. The flag says whether the path ends in a slash. -/
def follow (t : FileTree) (p : Path) : Except HostError (Ending × Bool) :=
  if p.text = "" then .error .notFound
  else if p.text.toList.contains '\x00' then .error .nulInName
  else if 4095 < p.text.utf8ByteSize then .error .nameTooLong
  else do
    let parts := ((p.text.toList.splitOn '/').map String.ofList).reverse
    let named := parts.dropWhile (· == "")
    let start := if p.isAbsolute then [] else t.home
    let folder ← named.tail.reverse.foldlM t.enter start
    let ending ←
      match named.head? with
      | none => pure (.reached folder)
      | some name =>
          if name = "." ∨ name = ".." then pure (.reached (← t.enter folder name))
          else pure (.named folder name)
    pure (ending, parts.head? == some "")

/-- What stands in a folder under a name. -/
def entry? (t : FileTree) (folder : Place) (name : String) : Except HostError (Option Node) :=
  if 255 < name.utf8ByteSize then .error .nameTooLong else .ok (t.get? (folder ++ [name]))

/-- What a path leads to. A slash at the end asks for a folder. -/
def find (t : FileTree) (p : Path) : Except HostError (Place × Node) := do
  match ← t.follow p with
  | (.reached folder, _) => pure (folder, .folder)
  | (.named folder name, slash) =>
      match ← t.entry? folder name with
      | none => throw .notFound
      | some (.file content modified) =>
          if slash then throw .notFolder else pure (folder ++ [name], .file content modified)
      | some .folder => pure (folder ++ [name], .folder)

def isFolder (t : FileTree) (p : Path) : Bool :=
  match t.find p with
  | .ok (_, .folder) => true
  | _ => false

/-- The bytes of a file. -/
def read (t : FileTree) (p : Path) : Except HostError ByteArray := do
  match ← t.find p with
  | (_, .file content _) => pure content
  | (_, .folder) => throw .isFolder

/-- The size of a file. All folders have the same size. -/
def size (t : FileTree) (p : Path) : Except HostError Nat := do
  match ← t.find p with
  | (_, .file content _) => pure content.size
  | (_, .folder) => pure 4096

/-- When a file was last changed. All folders are as old as time. -/
def modified? (t : FileTree) (p : Path) : Option Timestamp :=
  match t.find p with
  | .ok (_, .file _ modified) => some modified
  | .ok (_, .folder) => some .epoch
  | .error _ => none

/-- Makes or overwrites a file. A slash at the end is an error before the name is looked at. -/
def write (t : FileTree) (p : Path) (content : ByteArray) (now : Timestamp) :
    Except HostError FileTree := do
  match ← t.follow p with
  | (.reached _, _) | (.named _ _, true) => throw .isFolder
  | (.named folder name, false) =>
      match ← t.entry? folder name with
      | some .folder => throw .isFolder
      | _ => pure (t.put (folder ++ [name]) (.file content now))

/-- Makes a folder in one that exists. -/
def makeFolder (t : FileTree) (p : Path) : Except HostError FileTree := do
  match ← t.follow p with
  | (.reached _, _) => throw .alreadyExists
  | (.named folder name, _) =>
      if (← t.entry? folder name).isSome then throw .alreadyExists
      else pure (t.put (folder ++ [name]) .folder)

end FileTree

/-- A machine in memory. -/
structure Machine where
  tree : FileTree
  /-- All events told so far. -/
  told : Array Event
  now : Timestamp

namespace Machine

instance : Host (StateM Machine) where
  size p := do pure ((← get).tree.size p)
  modified? p := do pure ((← get).tree.modified? p)
  read p := do pure ((← get).tree.read p)
  write p text := do
    let machine ← get
    match machine.tree.write p text.toUTF8 machine.now with
    | .ok tree =>
        set { machine with tree := tree }
        pure (.ok ())
    | .error e => pure (.error e)
  isFolder p := do pure ((← get).tree.isFolder p)
  makeFolder p := do
    let machine ← get
    match machine.tree.makeFolder p with
    | .ok tree =>
        set { machine with tree := tree }
        pure (.ok ())
    | .error e => pure (.error e)
  tell e := modify fun machine => { machine with told := machine.told.push e }

end Machine

end Glossary
