/-
JSON text, compact and indented, and the text of a value as a cell. Floats
are written in the shortest form that reads back. Inside a string only the
quote, the backslash and the control characters below the space are
escaped.
-/
import MetaGraph.Decimal.Shortest
import MetaGraph.Json.Basic
import MetaGraph.Text.Quoted

namespace MetaGraph.Json

/-- How one character stands inside a JSON string. -/
def escapedChar (c : Char) : List Char :=
  if c = '"' then ['\\', '"']
  else if c = '\\' then ['\\', '\\']
  else if c = '\n' then ['\\', 'n']
  else if c = '\r' then ['\\', 'r']
  else if c = '\t' then ['\\', 't']
  else if c = '\x08' then ['\\', 'b']
  else if c = '\x0c' then ['\\', 'f']
  else if c.toNat < 32 then
    let digits := Text.hexDigits c.toNat
    ['\\', 'u'] ++ List.replicate (4 - digits.length) '0' ++ digits
  else [c]

/-- A JSON string literal. -/
def literal (s : String) : List Char := ['"'] ++ s.toList.flatMap escapedChar ++ ['"']

def intText (n : Int) : List Char :=
  if n < 0 then '-' :: Nat.toDigits 10 n.natAbs else Nat.toDigits 10 n.natAbs

mutual

/-- A value without any blanks. -/
def compactChars : Json → List Char
  | null => "null".toList
  | bool b => if b then "true".toList else "false".toList
  | int n => intText n
  | float x => (x.text .json).toList
  | text s => literal s
  | array items => '[' :: compactItems items ++ [']']
  | object members => '\x7b' :: compactMembers members ++ ['\x7d']

def compactItems : List Json → List Char
  | [] => []
  | [x] => compactChars x
  | x :: xs => compactChars x ++ ',' :: compactItems xs

def compactMembers : List (String × Json) → List Char
  | [] => []
  | [(k, x)] => literal k ++ ':' :: compactChars x
  | (k, x) :: xs => literal k ++ ':' :: compactChars x ++ ',' :: compactMembers xs

end

/-- A value without any blanks. -/
def compact (v : Json) : String := String.ofList (compactChars v)

/-- A line break followed by the indentation of the given depth. -/
def newline (depth : Nat) : List Char := '\n' :: List.replicate (2 * depth) ' '

mutual

/-- A value with one item or member a line, indented by two blanks a level. -/
def indentedChars (depth : Nat) : Json → List Char
  | array [] => ['[', ']']
  | array items => '[' :: indentedItems (depth + 1) items ++ newline depth ++ [']']
  | object [] => ['\x7b', '\x7d']
  | object members =>
    '\x7b' :: indentedMembers (depth + 1) members ++ newline depth ++ ['\x7d']
  | v => compactChars v

def indentedItems (depth : Nat) : List Json → List Char
  | [] => []
  | [x] => newline depth ++ indentedChars depth x
  | x :: xs => newline depth ++ indentedChars depth x ++ ',' :: indentedItems depth xs

def indentedMembers (depth : Nat) : List (String × Json) → List Char
  | [] => []
  | [(k, x)] => newline depth ++ literal k ++ [':', ' '] ++ indentedChars depth x
  | (k, x) :: xs =>
    newline depth ++ literal k ++ [':', ' '] ++ indentedChars depth x ++
      ',' :: indentedMembers depth xs

end

/-- A value over several lines. -/
def indented (v : Json) : String := String.ofList (indentedChars 0 v)

/-- The text of a value as a cell or in a template: a string stands for itself,
null is empty, everything else is compact JSON. -/
def cellText : Json → String
  | text s => s
  | null => ""
  | v => v.compact

@[simp] theorem cellText_text (s : String) : cellText (text s) = s := rfl

end MetaGraph.Json
