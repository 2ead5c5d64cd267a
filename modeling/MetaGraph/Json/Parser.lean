/-
Reading JSON text. Integers of up to 64 bits stay integers; every other
number becomes a float, its digits gathered in 64 bits and scaled once by a
power of ten. Nesting is limited, and of two members with one name the later
counts.
-/
import MetaGraph.Decimal.Power
import MetaGraph.Decimal.Reader
import MetaGraph.Json.Basic

namespace MetaGraph.Json

/-- Blanks between the tokens. -/
def skipBlanks (cs : List Char) : List Char :=
  cs.dropWhile fun c => c = ' ' || c = '\n' || c = '\t' || c = '\r'

/-- Four hexadecimal digits. -/
def hex4? : List Char → Option (Nat × List Char)
  | a :: b :: c :: d :: rest => do
    let a ← Decimal.hexDigit? a
    let b ← Decimal.hexDigit? b
    let c ← Decimal.hexDigit? c
    let d ← Decimal.hexDigit? d
    some (((a * 16 + b) * 16 + c) * 16 + d, rest)
  | _ => none

/-- The character of a `\u` escape, which takes two escapes outside the first
plane; a surrogate on its own is refused. -/
def unicodeEscape? (cs : List Char) : Option (Char × List Char) := do
  let (n, rest) ← hex4? cs
  if 0xD800 ≤ n ∧ n < 0xDC00 then
    match rest with
    | '\\' :: 'u' :: rest =>
      let (m, rest) ← hex4? rest
      if 0xDC00 ≤ m ∧ m < 0xE000 then
        some (Char.ofNat (0x10000 + (n - 0xD800) * 0x400 + (m - 0xDC00)), rest)
      else none
    | _ => none
  else if 0xDC00 ≤ n ∧ n < 0xE000 then none
  else some (Char.ofNat n, rest)

/-- The characters a one-letter escape stands for. -/
def shortEscape? (c : Char) : Option Char :=
  match c with
  | '"' => some '"'
  | '\\' => some '\\'
  | '/' => some '/'
  | 'b' => some '\x08'
  | 'f' => some '\x0c'
  | 'n' => some '\n'
  | 'r' => some '\r'
  | 't' => some '\t'
  | _ => none

/-- The rest of a string literal, after its opening quote. -/
def stringRest : Nat → List Char → List Char → Option (String × List Char)
  | 0, _, _ => none
  | fuel + 1, acc, cs =>
    match cs with
    | '"' :: rest => some (String.ofList acc.reverse, rest)
    | '\\' :: 'u' :: rest => do
      let (c, rest) ← unicodeEscape? rest
      stringRest fuel (c :: acc) rest
    | '\\' :: c :: rest => do
      let c ← shortEscape? c
      stringRest fuel (c :: acc) rest
    | c :: rest => if c.toNat < 32 then none else stringRest fuel (c :: acc) rest
    | [] => none

/-- `significand · 10^exponent`: the significand is rounded to a float, which is
then multiplied or divided once. Nothing if the result is not finite. -/
def scaled? (significand : Nat) (exponent : Int) : Option Binary64 :=
  let f := Binary64.ofInt significand
  let tenTo (k : Nat) : Binary64 := Binary64.ofDecimal false 1 k
  if significand = 0 then some f
  else if 308 < exponent then none
  else if 0 ≤ exponent then
    let x := f.mul (tenTo exponent.toNat)
    if x.isFinite then some x else none
  else stepDown 20 f (-exponent).toNat
where
  /-- Divides by powers of ten of at most 308. -/
  stepDown : Nat → Binary64 → Nat → Option Binary64
    | 0, _, _ => some (Binary64.zero false)
    | fuel + 1, f, k =>
      if k ≤ 308 then some (f.div (Binary64.ofDecimal false 1 k))
      else if f = Binary64.zero false then some f
      else stepDown fuel (f.div (Binary64.ofDecimal false 1 308)) (k - 308)

/-- Gathers digits while they fit into 64 bits: the number so far, and how many
digits were left over. -/
def gather : Nat → List Char → Nat × Nat
  | n, [] => (n, 0)
  | n, d :: ds =>
    let m := n * 10 + (d.toNat - '0'.toNat)
    if m < twoTo 64 then gather m ds else (n, ds.length + 1)

/-- A number without its sign. -/
def number? (negative : Bool) (cs : List Char) : Option (Json × List Char) := do
  let whole := cs.takeWhile Char.isDigit
  let rest := cs.dropWhile Char.isDigit
  let float (x : Binary64) : Json := .float (if negative then x.neg else x)
  if whole = [] ∨ (whole.head? = some '0' ∧ 1 < whole.length) then none
  else
    let (n, excess) := gather 0 whole
    let fractional :=
      match rest with
      | '.' :: r => some (r.takeWhile Char.isDigit, r.dropWhile Char.isDigit)
      | _ => none
    let (m, places, rest) ←
      match fractional with
      | none => some (n, 0, rest)
      | some (ds, r) =>
        if ds = [] then none
        else
          let (m, left) := gather n ds
          some (m, ds.length - left, r)
    let start : Int := (excess : Int) - places
    match rest with
    | e :: r =>
      if e = 'e' ∨ e = 'E' then
        let (down, r) :=
          match r with
          | '-' :: r => (true, r)
          | '+' :: r => (false, r)
          | r => (false, r)
        let ds := r.takeWhile Char.isDigit
        if ds = [] then none
        else
          let k : Int := Decimal.digitsValue ds
          let x ← scaled? m (if down then start - k else start + k)
          some (float x, r.dropWhile Char.isDigit)
      else plain float fractional.isSome m start n excess rest
    | [] => plain float fractional.isSome m start n excess rest
where
  /-- A number without an exponent: an integer, if it is written and fits as one. -/
  plain (float : Binary64 → Json) (isFraction : Bool) (m : Nat) (start : Int) (n excess : Nat)
      (rest : List Char) : Option (Json × List Char) := do
    if isFraction ∨ excess ≠ 0 then
      let x ← scaled? m start
      some (float x, rest)
    else if !negative then some (.int n, rest)
    else if n = 0 ∨ twoTo 63 < n then some (float (Binary64.ofInt n), rest)
    else some (.int (-(n : Int)), rest)

/-- The text after `word`, if it starts so. -/
def afterWord? (word : String) (cs : List Char) : Option (List Char) :=
  if cs.take word.length = word.toList then some (cs.drop word.length) else none

mutual

/-- A value, after any blanks; `depth` levels of nesting are left. -/
def value? : Nat → Nat → List Char → Option (Json × List Char)
  | 0, _, _ => none
  | fuel + 1, depth, cs =>
    match skipBlanks cs with
    | [] => none
    | '"' :: rest => (stringRest (rest.length + 1) [] rest).map fun (s, rest) => (.text s, rest)
    | '-' :: rest => number? true rest
    | '[' :: rest =>
      if depth ≤ 1 then none
      else
        match skipBlanks rest with
        | ']' :: rest => some (.array [], rest)
        | rest => (items? fuel (depth - 1) [] rest).map fun (xs, rest) => (.array xs, rest)
    | '\x7b' :: rest =>
      if depth ≤ 1 then none
      else
        match skipBlanks rest with
        | '\x7d' :: rest => some (.object [], rest)
        | rest => (members? fuel (depth - 1) [] rest).map fun (ms, rest) => (.object ms, rest)
    | c :: rest =>
      if c = 't' then (afterWord? "rue" rest).map (Json.bool true, ·)
      else if c = 'f' then (afterWord? "alse" rest).map (Json.bool false, ·)
      else if c = 'n' then (afterWord? "ull" rest).map (Json.null, ·)
      else number? false (c :: rest)

/-- The items of an array, up to its closing bracket. -/
def items? : Nat → Nat → List Json → List Char → Option (List Json × List Char)
  | 0, _, _, _ => none
  | fuel + 1, depth, acc, cs => do
    let (x, rest) ← value? fuel depth cs
    match skipBlanks rest with
    | ',' :: rest => items? fuel depth (x :: acc) rest
    | ']' :: rest => some ((x :: acc).reverse, rest)
    | _ => none

/-- The members of an object, up to its closing brace. -/
def members? : Nat → Nat → Record → List Char → Option (Record × List Char)
  | 0, _, _, _ => none
  | fuel + 1, depth, acc, cs => do
    match skipBlanks cs with
    | '"' :: rest =>
      let (name, rest) ← stringRest (rest.length + 1) [] rest
      match skipBlanks rest with
      | ':' :: rest =>
        let (x, rest) ← value? fuel depth rest
        let acc := KeyMap.insert name x acc
        match skipBlanks rest with
        | ',' :: rest => members? fuel depth acc rest
        | '\x7d' :: rest => some (acc, rest)
        | _ => none
      | _ => none
    | _ => none

end

/-- Levels of nesting a text may have. -/
def maxDepth : Nat := 128

/-- The value a whole text holds. -/
def parse? (s : String) : Option Json := do
  let cs := s.toList
  let (v, rest) ← value? (2 * cs.length + 2) maxDepth cs
  if skipBlanks rest = [] then some v else none

end MetaGraph.Json
