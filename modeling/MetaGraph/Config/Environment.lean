/-
Settings taken from environment variables. A variable whose name starts with
`DATABUILDER_` sets the value at the path that the rest of its name spells:
two underscores lead one level down, and case does not count. Its value is
written in a small language of its own; a text outside it stands for itself.
-/
import MetaGraph.Text.Blank
import MetaGraph.Text.Pieces
import MetaGraph.Toml.Scalar

namespace MetaGraph.Environment

open Toml (Scan)

/-! ## Values -/

def isSpace (c : Char) : Bool :=
  c == ' ' || c == '\t' || c == '\n' || c == '\r' || c == '\x0c'

def skipSpaces (cs : List Char) : List Char := cs.dropWhile isSpace

/-- Characters that end a bare value. -/
def isSeparator (c : Char) : Bool :=
  c == ',' || c == '\x7b' || c == '\x7d' || c == '[' || c == ']'

/-- What a bare value stands for: a number if it reads as one, else its text. -/
def bare (cs : List Char) : Datum :=
  let cs := Text.trimChars cs
  let whole : Datum :=
    match Decimal.integer 0 Decimal.u64Max cs with
    | .ok n => .integer false n
    | .error _ =>
      match Decimal.integer Decimal.i64Min Decimal.i64Max cs with
      | .ok n => .integer true n
      | .error _ => .text (String.ofList cs)
  if cs.contains '.' then
    match Decimal.binary64? cs with
    | some x => .float x
    | none => whole
  else whole

/-- The characters of a string up to its closing quote; a backslash keeps the
character after it in the string. -/
def stringBody : List Char → List Char
  | '\\' :: c :: cs => '\\' :: c :: stringBody cs
  | '"' :: _ => []
  | c :: cs => c :: stringBody cs
  | [] => []

/-- The characters that the body of a string stands for. -/
def unescape? : Nat → List Char → Option (List Char)
  | 0, _ => none
  | _ + 1, [] => some []
  | fuel + 1, '\\' :: cs => do
    let (c, rest) ← Toml.escape? cs
    (unescape? fuel rest).map (c :: ·)
  | fuel + 1, c :: cs => if Toml.isPlain c then (unescape? fuel cs).map (c :: ·) else none

/-- A string between double quotes. -/
def string? : Scan String
  | '"' :: cs => do
    let body := stringBody cs
    let rest ← Toml.after? '"' (cs.drop body.length)
    let text ← unescape? (body.length + 1) body
    some (String.ofList text, rest)
  | _ => none

/-- The key of an entry. -/
def key? : Scan String := fun cs =>
  match cs with
  | '"' :: _ => string? cs
  | _ =>
    let word := cs.takeWhile Toml.isBareKey
    if word = [] then none else some (String.ofList word, cs.drop word.length)

mutual

/-- A value with the spaces around it. -/
def value? : Nat → Scan Datum
  | 0, _ => none
  | fuel + 1, cs => do
    let cs := skipSpaces cs
    let (d, rest) ←
      match Toml.word? "true" cs, Toml.word? "false" cs with
      | some rest, _ => some (.bool true, rest)
      | _, some rest => some (.bool false, rest)
      | none, none =>
        match cs with
        | '\x7b' :: rest =>
          (entries? fuel [] rest).map fun (entries, rest) => (.table entries, rest)
        | '[' :: rest => (items? fuel [] rest).map fun (items, rest) => (.list items, rest)
        | '"' :: _ => (string? cs).map fun (s, rest) => (.text s, rest)
        | '\'' :: c :: '\'' :: rest => some (.char c, rest)
        | '\'' :: _ => none
        | cs =>
          let word := cs.takeWhile fun c => !isSeparator c
          some (bare word, cs.drop word.length)
    some (d, skipSpaces rest)

/-- The items of a list up to its closing bracket. -/
def items? : Nat → List Datum → Scan (List Datum)
  | 0, _, _ => none
  | _ + 1, acc, ']' :: rest => some (acc.reverse, rest)
  | fuel + 1, acc, cs => do
    let (d, rest) ← value? fuel cs
    match rest with
    | ',' :: rest => items? fuel (d :: acc) rest
    | ']' :: rest => some ((d :: acc).reverse, rest)
    | _ => none

/-- The entries of a table up to its closing brace. -/
def entries? : Nat → List (String × Datum) → Scan (List (String × Datum))
  | 0, _, _ => none
  | _ + 1, acc, '\x7d' :: rest => some (acc, rest)
  | fuel + 1, acc, cs => do
    let (k, rest) ← key? (skipSpaces cs)
    let rest ← Toml.after? '=' (skipSpaces rest)
    let (d, rest) ← value? fuel rest
    let acc := KeyMap.insert k d acc
    match rest with
    | ',' :: rest => entries? fuel acc rest
    | '\x7d' :: rest => some (acc, rest)
    | _ => none

end

/-- The value of a variable. -/
def parse (s : String) : Datum :=
  let cs := s.toList
  match value? (2 * cs.length + 2) cs with
  | some (d, []) => d
  | _ => .text s

/-! ## Variables -/

/-- What the names of variables that count start with. -/
def mark : String := "DATABUILDER_"

/-- The steps of a name in which two underscores or a point divide. -/
def divide : List Char → List (List Char)
  | '_' :: '_' :: cs => [] :: divide cs
  | c :: cs =>
    if c = '.' then [] :: divide cs
    else
      match divide cs with
      | piece :: rest => (c :: piece) :: rest
      | [] => [[c]]
  | [] => [[]]

/-- The path a variable's name spells, if it counts and no step of it is empty. -/
def path? (name : String) : Option (List String) :=
  let cs := Text.trimChars name.toList
  let front := cs.take mark.length
  if front.map Char.toUpper = mark.toList then
    let steps := divide (Text.trimChars (cs.drop mark.length))
    if steps.contains [] then none else some (steps.map fun s => String.ofList (s.map Char.toLower))
  else none

/-- A value put below the steps of a path. -/
def nest (steps : List String) (d : Datum) : Datum :=
  steps.foldr (fun step d => .table [(step, d)]) d

/-- The settings that the variables make, in their order: where two meet at one
path, the later one counts. -/
def settings (vars : List (String × String)) : Datum :=
  vars.foldl (fun tree (name, value) =>
    match path? name with
    | some steps => Datum.overlay tree (nest steps (parse (Text.trim value)))
    | none => tree) (.table [])

end MetaGraph.Environment
