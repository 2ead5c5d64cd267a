/-
Cypher statements as a script needs them, and their text. Data stands in
statements only as names, which are put between backquotes unless they are
plain words, as quoted strings, and as bare numbers and booleans.
-/
import MetaGraph.Decimal.Reader
import MetaGraph.Text.Blank
import MetaGraph.Text.Pieces

namespace MetaGraph.Cypher

def singleQuote : Char := '\''
def backquote : Char := '\x60'

/-- A character of a string: backslashes and quotes follow a backslash. -/
def stringChar (c : Char) : List Char :=
  if c = '\\' then ['\\', '\\'] else if c = singleQuote then ['\\', singleQuote] else [c]

/-- A text as a string literal. -/
def stringLiteral (s : String) : String :=
  String.ofList (singleQuote :: s.toList.flatMap stringChar ++ [singleQuote])

/-- Characters of plain words. -/
def isWordChar (c : Char) : Bool := c.isAlphanum || c == '_'

/-- Whether a name can stand without backquotes. -/
def isWord (cs : List Char) : Bool := !cs.isEmpty && cs.all isWordChar

/-- The name of a label, type or property; backquotes in it are written twice. -/
def identifier (s : String) : String :=
  if isWord s.toList then s
  else
    String.ofList
      (backquote :: Text.replaceChar backquote [backquote, backquote] s.toList ++ [backquote])

/-- Characters of numbers. -/
def isNumberChar (c : Char) : Bool := c.isDigit || ['+', '-', '.', 'e', 'E'].contains c

/-- Whether a text, blanks around it not counting, is a boolean or a finite number. -/
def isLiteral (s : String) : Bool :=
  let cs := Text.trimChars s.toList
  let name := cs.map Char.toLower
  name = ['t', 'r', 'u', 'e'] || name = ['f', 'a', 'l', 's', 'e'] ||
    (cs.any Char.isDigit && cs.all isNumberChar && (Decimal.binary64? cs).any Binary64.isFinite)

/-- The value of a property. -/
inductive Value where
  | quoted (s : String)
  /-- A number or boolean. -/
  | bare (s : String)
deriving DecidableEq, Repr

def Value.text : Value → String
  | quoted s => stringLiteral s
  | bare s => s

/-- A property and the value it is set to. -/
structure Assignment where
  property : String
  value : Value
deriving DecidableEq, Repr

/-- An assignment to the element that is called `element`. -/
def Assignment.text (element : String) (a : Assignment) : String :=
  element ++ "." ++ identifier a.property ++ " = " ++ a.value.text

/-- A node, told by its label and key. -/
structure NodeRef where
  label : String
  key : String
deriving DecidableEq, Repr

/-- The pattern of a node that is called `element`. -/
def NodeRef.pattern (element : String) (n : NodeRef) : String :=
  "(" ++ element ++ ":" ++ identifier n.label ++ " \x7bkey: " ++ stringLiteral n.key ++ "\x7d)"

/-- A statement of a script. -/
inductive Statement where
  /-- The keys of the nodes of a label are unique. -/
  | unique (label : String)
  /-- There is a node, and its properties are set. -/
  | node (n : NodeRef) (sets : List Assignment)
  /-- If both nodes are there, so are relations in both directions, and the
  properties of both are set. -/
  | relation (start target : NodeRef) (kind reverseKind : String) (sets : List Assignment)
deriving DecidableEq, Repr

namespace Statement

def assignments (elements : List String) (sets : List Assignment) : String :=
  ", ".intercalate (elements.flatMap fun e => sets.map (Assignment.text e))

/-- The text of a statement, without the line break after it. -/
def text : Statement → String
  | unique label =>
    "CREATE CONSTRAINT IF NOT EXISTS FOR (n:" ++ identifier label ++ ") REQUIRE n.key IS UNIQUE;"
  | node n sets => "MERGE " ++ n.pattern "n" ++ " SET " ++ assignments ["n"] sets ++ ";"
  | relation start target kind reverseKind sets =>
    "MATCH " ++ start.pattern "n1" ++ ", " ++ target.pattern "n2" ++
      " MERGE (n1)-[r1:" ++ identifier kind ++ "]->(n2)-[r2:" ++ identifier reverseKind ++
      "]->(n1) SET " ++ assignments ["r1", "r2"] sets ++ ";"

end Statement

/-- The text of a script, a statement a line. -/
def scriptText (script : List Statement) : String :=
  String.join (script.map fun s => s.text ++ "\n")

end MetaGraph.Cypher
