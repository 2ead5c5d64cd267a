/-
Files of environment variables: lines `NAME=value`, with comments, quotes and
references to other variables. A value in quotes may go over several lines. A
line outside this form ends the reading; the lines before it count.
-/
import MetaGraph.Files.Store
import MetaGraph.Text.Blank
import MetaGraph.Text.Word

namespace MetaGraph.EnvFile

/-- Names and values, in the order in which they were set. -/
abbrev Variables := List (String × String)

/-! ## Lines -/

/-- What the reading of a line is in the midst of. -/
inductive Midst where
  | plain
  | blank
  | escape
  | single
  | singleEscape
  | double
  | doubleEscape
deriving DecidableEq, Repr

/-- What stands after one more character. -/
def Midst.after (m : Midst) (c : Char) : Midst :=
  match m with
  | .escape => .plain
  | .single => if c = '\\' then .singleEscape else if c = '\'' then .plain else .single
  | .singleEscape => .single
  | .double => if c = '\\' then .doubleEscape else if c = '"' then .plain else .double
  | .doubleEscape => .double
  | .plain | .blank =>
    if c = '\\' then .escape
    else if c = '"' then .double
    else if c = '\'' then .single
    else if m = .plain && Text.isBlank c && c ≠ '\n' && c ≠ '\r' then .blank
    else .plain

/-- The characters before a comment, and what stands at the end of a line without one. -/
def beforeComment (m : Midst) : List Char → List Char × Option Midst
  | [] => ([], some m)
  | c :: cs =>
    if m = .blank && c = '#' then ([], none)
    else
      let (kept, last) := beforeComment (m.after c) cs
      (c :: kept, last)

/-- The lines in bytes, each with the mark at its end. -/
def splitLines : Bytes → List Bytes
  | [] => []
  | b :: bs =>
    if b = 10 then [b] :: splitLines bs
    else
      match splitLines bs with
      | line :: rest => (b :: line) :: rest
      | [] => [[b]]

/-- The text of a line, if it is one. -/
def lineText? (line : Bytes) : Option (List Char) := (Utf8.decode line).toOption.map String.toList

/-- Lines joined where a quote or an escape is open at the end; nothing in place of a line
that is no text, or that is open at the end of the file. -/
def joinLines (m : Midst) (held : List Char) : List Bytes → List (Option (List Char))
  | [] => if m = .plain then [] else [none]
  | line :: rest =>
    match lineText? line with
    | none => [none]
    | some cs =>
      if (Text.trimFront (held ++ cs)).head? = some '#' then some [] :: joinLines .plain [] rest
      else
        match beforeComment m cs with
        | (kept, none) | (kept, some .plain) => some (held ++ kept) :: joinLines .plain [] rest
        | (kept, some m) => joinLines m (held ++ kept) rest

/-! ## Values -/

/-- Where the reading of a value is. -/
inductive Spot where
  | text
  | escape
  | single
  /-- After a dollar sign, in a name. -/
  | name (read : List Char)
  /-- In a name between braces. -/
  | braced (read : List Char)
  /-- After a blank, where only a comment may follow. -/
  | ended
deriving DecidableEq, Repr

/-- The character that stands for itself, or for a new line, after a backslash. -/
def escaped? (c : Char) : Option Char :=
  if c = 'n' then some '\n'
  else if ['\\', '\'', '"', '$', ' '].contains c then some c
  else none

/-- Whether a reference without braces goes on with a character. -/
def isNameChar (c : Char) : Bool := Text.isWord c && c ≠ '_'

/-- The characters that a value stands for; `quoted` tells whether it is between double
quotes, `value` is the text of a variable. A reference ends with the first character that
is neither letter nor digit, and that character is taken as it is. -/
def value? (value : List Char → List Char) (quoted : Bool) (spot : Spot) :
    List Char → Option (List Char)
  | [] =>
    match spot with
    | .single | .braced _ => none
    | .name read => if quoted then none else some (value read)
    | _ => if quoted then none else some []
  | c :: cs =>
    match spot with
    | .ended =>
      if c = ' ' || c = '\t' then value? value quoted .ended cs
      else if c = '#' then some []
      else none
    | .escape => do some ((← escaped? c) :: (← value? value quoted .text cs))
    | .single =>
      if c = '\'' then value? value quoted .text cs
      else (value? value quoted .single cs).map (c :: ·)
    | .name read =>
      if isNameChar c then value? value quoted (.name (read ++ [c])) cs
      else if c = '\x7b' && read = [] then value? value quoted (.braced []) cs
      else if c = '$' then (value? value quoted (.name []) cs).map (value read ++ ·)
      else (value? value quoted .text cs).map fun rest => value read ++ c :: rest
    | .braced read =>
      if c = '\x7d' then (value? value quoted .text cs).map (value read ++ ·)
      else value? value quoted (.braced (read ++ [c])) cs
    | .text =>
      if c = '$' then value? value quoted (.name []) cs
      else if c = '\\' then value? value quoted .escape cs
      else if c = '"' then value? value (!quoted) .text cs
      else if quoted then (value? value quoted .text cs).map (c :: ·)
      else if c = '\'' then value? value quoted .single cs
      else if c = ' ' || c = '\t' then value? value quoted .ended cs
      else (value? value quoted .text cs).map (c :: ·)

/-! ## Entries -/

/-- The value of a variable; empty if there is none. -/
def valueOf (vars : Variables) (name : List Char) : List Char :=
  ((vars.lookup (String.ofList name)).getD "").toList

/-- The name at the front of a line, and the rest after blanks. -/
def name? (cs : List Char) : Option (String × List Char) :=
  match cs with
  | c :: _ =>
    if c.isAlpha || c = '_' then
      let name := cs.takeWhile fun c => c.isAlphanum || c = '_' || c = '.'
      some (String.ofList name, Text.trimFront (cs.drop name.length))
    else none
  | [] => none

/-- The name that a line sets, and what follows the equals sign. The word `export` may
stand in front of the name, and may be one. -/
def assignment? (cs : List Char) : Option (String × List Char) :=
  match name? cs with
  | some (name, '=' :: rest) => some (name, Text.trimFront rest)
  | some ("export", rest) =>
    match name? rest with
    | some (name, '=' :: rest) => some (name, Text.trimFront rest)
    | _ => none
  | _ => none

/-- What a line sets: nothing if it is blank or a comment. A line without this form is
refused. -/
def entry? (vars : Variables) (line : List Char) : Option (Option (String × String)) :=
  let cs := Text.trimChars line
  if cs = [] || cs.head? = some '#' then some none
  else do
    let (name, rest) ← assignment? cs
    if rest.head? = some '#' then some (some (name, ""))
    else
      let value ← value? (valueOf vars) false .text rest
      some (some (name, String.ofList value))

/-- The variables with those of the lines up to the first that is refused. One that is set
already keeps its value. -/
def addLines (vars : Variables) : List (Option (List Char)) → Variables
  | [] | none :: _ => vars
  | some line :: rest =>
    match entry? vars line with
    | none => vars
    | some none => addLines vars rest
    | some (some (name, value)) =>
      if (vars.lookup name).isSome then addLines vars rest
      else addLines (vars ++ [(name, value)]) rest

/-- The bytes of the byte order mark. -/
def orderMark : Bytes := [0xEF, 0xBB, 0xBF]

/-- The variables with those that the content of a file sets. -/
def add (vars : Variables) (content : Bytes) : Variables :=
  let content := if content.take 3 = orderMark then content.drop 3 else content
  addLines vars (joinLines .plain [] (splitLines content))

/-! ## The file -/

/-- The name of a file of variables. -/
def fileName : String := ".env"

/-- A directory and those above it. -/
def upwards (p : Place) : List Place :=
  (List.range (p.length + 1)).reverse.map fun n => p.take n

/-- The content of the nearest file of variables, from the working directory upwards. -/
def nearest? (s : FileStore) : Option Bytes :=
  (upwards s.home).findSome? fun dir =>
    match s.entry? (dir ++ [fileName]) with
    | some (.file content) => some content
    | _ => none

/-- The variables with those of the nearest file. -/
def load (s : FileStore) (vars : Variables) : Variables :=
  (nearest? s).elim vars (add vars)

end MetaGraph.EnvFile
