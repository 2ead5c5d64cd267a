/-
Texts with placeholders. `{name}` stands for the field `name` of a record,
blanks around the name not counting; `{{` and `}}` stand for single braces,
and a closing brace on its own stands for itself. A field's text is put in
as it is and never looked at again.
-/
import MetaGraph.Json.Printer
import MetaGraph.Text.Blank

namespace MetaGraph

/-- Why a template cannot be filled. -/
inductive TemplateError where
  | missingField (field template : String)
  | unclosed (template : String)
deriving DecidableEq, Repr

def TemplateError.message : TemplateError → String
  | missingField field template =>
    s!"Field '{field}' referenced by template {Text.quoted template} is missing from the record"
  | unclosed template => "Unclosed placeholder in template " ++ Text.quoted template

namespace Template

/-- A piece of a template. An opening brace without a closing one ends it. -/
inductive Piece where
  | char (c : Char)
  | field (name : String)
  | unclosed
deriving DecidableEq, Repr

/-- The pieces of a template in order; `name` holds what was read of a placeholder that is
open. -/
def piecesFrom : Option (List Char) → List Char → List Piece
  | none, [] => []
  | some _, [] => [.unclosed]
  | some name, c :: rest =>
    if c = '\x7d' then .field (String.ofList (Text.trimChars name)) :: piecesFrom none rest
    else piecesFrom (some (name ++ [c])) rest
  | none, '\x7b' :: '\x7b' :: rest => .char '\x7b' :: piecesFrom none rest
  | none, '\x7d' :: '\x7d' :: rest => .char '\x7d' :: piecesFrom none rest
  | none, '\x7b' :: rest => piecesFrom (some []) rest
  | none, c :: rest => .char c :: piecesFrom none rest

/-- The pieces of a template in order. -/
def pieces (cs : List Char) : List Piece := piecesFrom none cs

/-- The text of one piece. -/
def Piece.fill (template : String) (record : Record) : Piece → Except TemplateError (List Char)
  | .char c => .ok [c]
  | .field name =>
    match record.get? name with
    | some value => .ok value.cellText.toList
    | none => .error (.missingField name template)
  | .unclosed => .error (.unclosed template)

/-- The text of all pieces, or the fault of the first piece that has one. -/
def fillAll (template : String) (record : Record) :
    List Piece → Except TemplateError (List Char)
  | [] => .ok []
  | p :: ps => do
    let here ← p.fill template record
    let rest ← fillAll template record ps
    pure (here ++ rest)

/-- The template with its placeholders filled from the record. -/
def render (template : String) (record : Record) : Except TemplateError String :=
  (fillAll template record (pieces template.toList)).map String.ofList

end Template

end MetaGraph
