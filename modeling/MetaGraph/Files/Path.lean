/-
Paths as texts: steps divided by slashes, absolute when they start with one.
A path keeps the spelling it was given; its steps are what counts when it is
followed.
-/
import MetaGraph.Text.Pieces

namespace MetaGraph.Path

/-- Whether a path starts at the root. -/
def isAbsolute (path : String) : Bool := path.toList.head? == some '/'

/-- The steps of a path. Repeated slashes and steps to the same place do not
count, except that a slash at the end still asks for a directory. -/
def steps (path : String) : List String :=
  let parts := (Text.splitOn '/' path).filter fun p => p ≠ "" && p ≠ "."
  let asksForDirectory :=
    match (Text.splitOn '/' path).getLast? with
    | some last => (last = "" || last = ".") && path ≠ "" && path ≠ "."
    | none => false
  if asksForDirectory then parts ++ ["."] else parts

/-- A name below a directory. -/
def join (directory name : String) : String :=
  if directory = "" || directory.toList.getLast? == some '/' then directory ++ name
  else directory ++ "/" ++ name

/-- The steps that count as names or moves, in order. -/
def components (path : String) : List String :=
  (Text.splitOn '/' path).filter fun p => p ≠ "" && p ≠ "."

/-- Whether a relative path starts with a step to the same place. -/
def startsHere (path : String) : Bool :=
  !isAbsolute path && (Text.splitOn '/' path).head? == some "."

/-- Whether two paths are the same but for slashes and steps to the same place that do not count.
At the start of a relative path such a step counts. -/
def same (path other : String) : Bool :=
  isAbsolute path == isAbsolute other && startsHere path == startsHere other &&
    components path == components other

/-- The path without its last component; nothing for the root and the empty path. -/
def parent? (path : String) : Option String :=
  let cs := components path
  if cs = [] then none
  else
    let text := "/".intercalate cs.dropLast
    some (if isAbsolute path then "/" ++ text else text)

/-- The end of a file's name after its last point; a leading point does not count. -/
def extension? (name : String) : Option String :=
  let cs := name.toList
  let after := (cs.reverse.takeWhile (· ≠ '.')).reverse
  if after.length + 1 < cs.length then some (String.ofList after) else none

end MetaGraph.Path
