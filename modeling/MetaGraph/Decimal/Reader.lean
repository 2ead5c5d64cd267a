/-
Numbers read from text: decimal integers with an optional sign, and
floating-point numbers with a fraction, an exponent or a name. Each reader
takes the whole text or refuses it.
-/
import MetaGraph.Decimal.Binary64

namespace MetaGraph.Decimal

/-- The value of a hexadecimal digit. -/
def hexDigit? (c : Char) : Option Nat :=
  if c.isDigit then some (c.toNat - '0'.toNat)
  else if 'a' ≤ c ∧ c ≤ 'f' then some (c.toNat - 'a'.toNat + 10)
  else if 'A' ≤ c ∧ c ≤ 'F' then some (c.toNat - 'A'.toNat + 10)
  else none

/-- The number written by a list of digits, most significant first. -/
def digitsValue (ds : List Char) : Nat := ds.foldl (fun n c => n * 10 + (c.toNat - '0'.toNat)) 0

/-- Why a text is not an integer of a given range. -/
inductive IntegerFault where
  | empty
  | notADigit
  | tooLarge
  | tooSmall
deriving DecidableEq, Repr

def IntegerFault.message : IntegerFault → String
  | .empty => "cannot parse integer from empty string"
  | .notADigit => "invalid digit found in string"
  | .tooLarge => "number too large to fit in target type"
  | .tooSmall => "number too small to fit in target type"

/-- A decimal integer between `lo` and `hi`. One sign may stand in front, a
minus only where negative numbers are in range. -/
def integer (lo hi : Int) (cs : List Char) : Except IntegerFault Int :=
  let body (negative : Bool) (ds : List Char) : Except IntegerFault Int :=
    if ds = [] ∨ ds.any (fun c => !c.isDigit) then .error .notADigit
    else
      let n : Int := digitsValue ds
      let n := if negative then -n else n
      if hi < n then .error .tooLarge else if n < lo then .error .tooSmall else .ok n
  match cs with
  | [] => .error .empty
  | '+' :: ds => body false ds
  | '-' :: ds => if lo < 0 then body true ds else .error .notADigit
  | ds => body false ds

def i64Min : Int := -9223372036854775808
def i64Max : Int := 9223372036854775807
def u64Max : Int := 18446744073709551615

/-- The signed 64-bit integer a text writes. -/
def int64 (s : String) : Except IntegerFault Int := integer i64Min i64Max s.toList

/-- The unsigned 64-bit integer a text writes. -/
def uint64 (s : String) : Except IntegerFault Int := integer 0 u64Max s.toList

/-- A mantissa with an optional fraction, in digits without a sign:
the digits, how many of them follow the point, and the rest of the text. -/
def mantissa (cs : List Char) : List Char × Nat × List Char :=
  let whole := cs.takeWhile Char.isDigit
  match cs.dropWhile Char.isDigit with
  | '.' :: rest =>
    let fraction := rest.takeWhile Char.isDigit
    (whole ++ fraction, fraction.length, rest.dropWhile Char.isDigit)
  | rest => (whole, 0, rest)

/-- An exponent after `e` or `E`; the empty text is the exponent zero. -/
def exponent? : List Char → Option Int
  | [] => some 0
  | e :: cs =>
    if e = 'e' ∨ e = 'E' then
      let (negative, ds) :=
        match cs with
        | '-' :: ds => (true, ds)
        | '+' :: ds => (false, ds)
        | ds => (false, ds)
      if ds = [] ∨ ds.any (fun c => !c.isDigit) then none
      else
        let n : Int := digitsValue ds
        some (if negative then -n else n)
    else none

/-- A floating-point number: an optional sign, then a decimal or a name. -/
def binary64? (cs : List Char) : Option Binary64 :=
  let (negative, body) :=
    match cs with
    | '-' :: rest => (true, rest)
    | '+' :: rest => (false, rest)
    | rest => (false, rest)
  let name := body.map Char.toLower
  if name = ['i', 'n', 'f'] ∨ name = ['i', 'n', 'f', 'i', 'n', 'i', 't', 'y'] then
    some (Binary64.infinity negative)
  else if name = ['n', 'a', 'n'] then some Binary64.nan
  else
    let (digits, places, rest) := mantissa body
    if digits = [] then none
    else
      match exponent? rest with
      | some e => some (Binary64.ofDecimal negative (digitsValue digits) (e - places))
      | none => none

/-- Whether a text writes a number at all. -/
def isNumeric (cs : List Char) : Bool := (binary64? cs).isSome

end MetaGraph.Decimal
