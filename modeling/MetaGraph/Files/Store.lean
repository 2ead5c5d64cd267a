/-
The files a program can see: a tree of directories with files in it. Every
operation follows a path step by step from the root, or from the directory
in which the program runs, and reports the fault a step meets.
-/
import MetaGraph.Files.Path
import MetaGraph.Text.Utf8

namespace MetaGraph

/-- Why a file operation failed. -/
inductive FileError where
  | notFound
  | notADirectory
  | isADirectory
  | alreadyExists
  | nameTooLong
  | nulInName
  /-- A failure told in words of its own. -/
  | other (text : String)
deriving DecidableEq, Repr

def FileError.message : FileError → String
  | notFound => "No such file or directory (os error 2)"
  | notADirectory => "Not a directory (os error 20)"
  | isADirectory => "Is a directory (os error 21)"
  | alreadyExists => "File exists (os error 17)"
  | nameTooLong => "File name too long (os error 36)"
  | nulInName => "file name contained an unexpected NUL byte"
  | other text => text

/-- A place in the tree: the names that lead to it from the root. -/
abbrev Place := List String

/-- What stands at a place. -/
inductive Entry where
  | directory
  | file (content : Bytes)
deriving DecidableEq, Repr

/-- The files and directories below the root, and the directory relative paths
start from. -/
structure FileStore where
  entries : List (Place × Entry) := []
  home : Place := []
deriving DecidableEq, Repr

namespace FileStore

/-- What stands at a place; the root is always a directory. -/
def entry? (s : FileStore) (p : Place) : Option Entry :=
  if p = [] then some .directory else s.entries.lookup p

/-- Puts an entry at a place, in place of what stood there. -/
def put (s : FileStore) (p : Place) (e : Entry) : FileStore :=
  { s with entries := (p, e) :: s.entries.filter fun x => x.1 ≠ p }

/-- Longest name of a file, in bytes. -/
def maxName : Nat := 255

/-- Follows the steps of a path from a directory. The last step need not exist. -/
def follow (s : FileStore) : Place → List String → Except FileError Place
  | p, [] => .ok p
  | p, step :: rest =>
    match s.entry? p with
    | none => .error .notFound
    | some (.file _) => .error .notADirectory
    | some .directory =>
      if step = "." then follow s p rest
      else if step = ".." then follow s p.dropLast rest
      else if maxName < step.utf8ByteSize then .error .nameTooLong
      else follow s (p ++ [step]) rest

/-- The place a path leads to. -/
def resolve (s : FileStore) (path : String) : Except FileError Place :=
  if path = "" then .error .notFound
  else if path.toList.contains '\x00' then .error .nulInName
  else s.follow (if Path.isAbsolute path then [] else s.home) (Path.steps path)

/-- The place and entry of a path that has to exist. -/
def find (s : FileStore) (path : String) : Except FileError (Place × Entry) := do
  let p ← s.resolve path
  match s.entry? p with
  | some e => pure (p, e)
  | none => throw .notFound

/-- Whether something stands at the end of the path. -/
def pathExists (s : FileStore) (path : String) : Bool := (s.find path).isOk

/-- Whether a file stands at the end of the path. -/
def isFile (s : FileStore) (path : String) : Bool :=
  match s.find path with
  | .ok (_, .file _) => true
  | _ => false

/-- The content of the file at the end of the path. -/
def read (s : FileStore) (path : String) : Except FileError Bytes := do
  match ← s.find path with
  | (_, .file content) => pure content
  | (_, .directory) => throw .isADirectory

/-- The place at which a file can be written: its directory exists, and it is no
directory itself. -/
def writable (s : FileStore) (path : String) : Except FileError Place := do
  let p ← s.resolve path
  match s.entry? p with
  | some .directory => throw .isADirectory
  | some (.file _) => pure p
  | none =>
    if (Path.steps path).getLast? = some "." then throw .isADirectory
    match s.entry? p.dropLast with
    | some .directory => pure p
    | some (.file _) => throw .notADirectory
    | none => throw .notFound

/-- Writes a file, in place of one that stood there. -/
def write (s : FileStore) (path : String) (content : Bytes) : Except FileError FileStore := do
  let p ← s.writable path
  pure (s.put p (.file content))

/-- Adds to the end of the file at a place. -/
def append (s : FileStore) (p : Place) (content : Bytes) : FileStore :=
  match s.entry? p with
  | some (.file old) => s.put p (.file (old ++ content))
  | _ => s

/-- Whether `p` lies below the directory `dir`. -/
def isBelow (dir p : Place) : Bool := dir.length < p.length && p.take dir.length = dir

/-- The names in a directory. -/
def namesIn (s : FileStore) (dir : Place) : List String :=
  s.entries.filterMap fun (p, _) =>
    if p.length = dir.length + 1 && p.take dir.length = dir then p.getLast? else none

/-- The names in the directory at the end of the path. -/
def list (s : FileStore) (path : String) : Except FileError (List String) := do
  match ← s.find path with
  | (p, .directory) => pure (s.namesIn p)
  | (_, .file _) => throw .notADirectory

/-- Removes the directory at the end of the path with everything below it. -/
def removeTree (s : FileStore) (path : String) : Except FileError FileStore := do
  match ← s.find path with
  | (p, .directory) =>
    pure { s with entries := s.entries.filter fun x => x.1 ≠ p && !isBelow p x.1 }
  | (_, .file _) => throw .notADirectory

/-- Follows the steps, making the directories that are missing. -/
def makeSteps : FileStore → Place → List String → Except FileError FileStore
  | s, p, [] =>
    match s.entry? p with
    | some .directory => .ok s
    | some (.file _) => .error .alreadyExists
    | none => .ok (s.put p .directory)
  | s, p, step :: rest =>
    match s.entry? p with
    | some (.file _) => .error .notADirectory
    | found =>
      let s := if found.isNone then s.put p .directory else s
      if step = "." then makeSteps s p rest
      else if step = ".." then makeSteps s p.dropLast rest
      else if maxName < step.utf8ByteSize then .error .nameTooLong
      else makeSteps s (p ++ [step]) rest

/-- Makes the directory at the end of the path and those on the way to it. The directory that a
relative path starts from has to be there. -/
def makeDirectories (s : FileStore) (path : String) : Except FileError FileStore :=
  let start := if Path.isAbsolute path then [] else s.home
  if path = "" then .ok s
  else if path.toList.contains '\x00' then .error .nulInName
  else if s.entry? start ≠ some .directory then .error .notFound
  else s.makeSteps start (Path.steps path)

end FileStore

end MetaGraph
