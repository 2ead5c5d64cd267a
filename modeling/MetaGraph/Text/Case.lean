/-
Upper and lower case of texts, by the full Unicode mappings: one character
may map to several, and a capital sigma at the end of a word becomes the
final small sigma.
-/
import MetaGraph.Text.CaseTable
import MetaGraph.Text.Ranges

namespace MetaGraph.Text

/-- Whether `c` is an upper case character. Title case letters are not. -/
def isUppercase (c : Char) : Bool :=
  if c.toNat < 128 then c.isUpper else inRuns uppercaseRuns c.toNat

/-- Whether `c` is a letter with a case, or counts as one. -/
def isCased (c : Char) : Bool := inRuns casedRuns c.toNat

/-- Whether `c` is passed over when looking for the next letter of a word. -/
def isCaseIgnorable (c : Char) : Bool := inRanges caseIgnorableRanges c.toNat

/-- The image of `n` under the first run that holds it. -/
def shiftBy (runs : List (Nat × Nat × Nat × Int)) (n : Nat) : Nat :=
  match runs.find? fun (lo, hi, step, _) => lo ≤ n && n ≤ hi && (n - lo) % step == 0 with
  | some (_, _, _, distance) => ((n : Int) + distance).toNat
  | none => n

/-- The mapping of one character by a pair of tables. -/
def mapChar (many : List (Nat × List Nat)) (runs : List (Nat × Nat × Nat × Int)) (c : Char) :
    List Char :=
  match many.lookup c.toNat with
  | some ns => ns.map Char.ofNat
  | none => [Char.ofNat (shiftBy runs c.toNat)]

/-- The upper case form of one character. -/
def upperChar (c : Char) : List Char :=
  if c.toNat < 128 then [c.toUpper] else mapChar toUpperMany toUpperRuns c

/-- The lower case form of one character, wherever it stands. -/
def lowerChar (c : Char) : List Char :=
  if c.toNat < 128 then [c.toLower] else mapChar toLowerMany toLowerRuns c

/-- Whether the next letter, past everything that is passed over, has a case. -/
def leadsToCased (cs : List Char) : Bool :=
  match cs.dropWhile isCaseIgnorable with
  | c :: _ => isCased c
  | [] => false

/-- Lower case of `cs`, which follow the characters `before` (nearest first). -/
def lowerFrom (before : List Char) : List Char → List Char
  | [] => []
  | c :: cs =>
    let here :=
      if c = 'Σ' then
        if leadsToCased before && !leadsToCased cs then ['ς'] else ['σ']
      else lowerChar c
    here ++ lowerFrom (c :: before) cs

/-- The text in upper case. -/
def upper (s : String) : String := String.ofList (s.toList.flatMap upperChar)

/-- The text in lower case. -/
def lower (s : String) : String := String.ofList (lowerFrom [] s.toList)

end MetaGraph.Text
