/-
Cutting texts at a character and joining them again. Splitting always gives
at least one piece, and joining the pieces with the character gives the text
back.
-/

namespace MetaGraph.Text

/-- The pieces of `cs` between the occurrences of `d`. -/
def splitChars (d : Char) : List Char → List (List Char)
  | [] => [[]]
  | c :: cs =>
    if c = d then [] :: splitChars d cs
    else
      match splitChars d cs with
      | [] => [[c]]
      | piece :: rest => (c :: piece) :: rest

/-- The pieces put together again with `d` between them. -/
def joinChars (d : Char) : List (List Char) → List Char
  | [] => []
  | [piece] => piece
  | piece :: rest => piece ++ d :: joinChars d rest

/-- The pieces of a text between the occurrences of `d`. -/
def splitOn (d : Char) (s : String) : List String := (splitChars d s.toList).map String.ofList

/-- The text before and after the first `d`. -/
def cutAt? (d : Char) (s : String) : Option (String × String) :=
  let cs := s.toList
  match cs.dropWhile (· != d) with
  | _ :: after => some (String.ofList (cs.takeWhile (· != d)), String.ofList after)
  | [] => none

/-- `text` in place of every `d`. -/
def replaceChar (d : Char) (text : List Char) (cs : List Char) : List Char :=
  cs.flatMap fun c => if c = d then text else [c]

/-- The text without `tail` at its end, if it ends so. -/
def dropTail? (tail : String) (s : String) : Option String :=
  let cs := s.toList
  let keep := cs.length - tail.toList.length
  if cs.drop keep = tail.toList then some (String.ofList (cs.take keep)) else none

theorem splitChars_ne_nil (d : Char) : ∀ cs : List Char, splitChars d cs ≠ []
  | [] => by simp [splitChars]
  | c :: cs => by
    by_cases h : c = d
    · simp [splitChars, h]
    · simp only [splitChars, h, if_false]
      split <;> simp

end MetaGraph.Text
