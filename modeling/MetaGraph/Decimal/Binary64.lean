/-
Binary floating-point numbers of 64 bits, kept as their bits. Every
operation the library needs is exact arithmetic on naturals followed by one
rounding to the nearest number, a tie going to the even one.
-/
import MetaGraph.Decimal.Power

namespace MetaGraph

/-- A binary64 number, by its bits. -/
structure Binary64 where
  bits : UInt64
deriving DecidableEq, Repr, Inhabited

namespace Binary64

/-- What the bits of a number stand for. -/
inductive View where
  | nan
  | infinite (negative : Bool)
  /-- The number `m · 2^q`, with its sign; zero keeps one too. -/
  | finite (negative : Bool) (m : Nat) (q : Int)
deriving DecidableEq, Repr

/-- Reads the sign, the exponent and the fraction out of the bits. -/
def view (x : Binary64) : View :=
  let n := x.bits.toNat
  let negative := decide (twoTo 63 ≤ n)
  let field : Nat := n / twoTo 52 % twoTo 11
  let fraction : Nat := n % twoTo 52
  if field = 2047 then if fraction = 0 then .infinite negative else .nan
  else if field = 0 then .finite negative fraction (-1074)
  else .finite negative (fraction + twoTo 52) ((field : Int) - 1075)

/-- The number of the given bits below the sign bit. -/
def signed (negative : Bool) (magnitude : Nat) : Binary64 :=
  ⟨UInt64.ofNat (if negative then twoTo 63 + magnitude else magnitude)⟩

def infinity (negative : Bool) : Binary64 := signed negative (2047 * twoTo 52)

def nan : Binary64 := signed false (2047 * twoTo 52 + twoTo 51)

def zero (negative : Bool) : Binary64 := signed negative 0

/-- The number `m · 2^q` for `m ≤ 2^53` with `q` as small as its range allows;
past the largest finite number it is infinite. -/
def pack (negative : Bool) (m : Nat) (q : Int) : Binary64 :=
  if m < twoTo 52 then signed negative m
  else
    let magnitude := (q + 1075).toNat * twoTo 52 + (m - twoTo 52)
    if 2047 * twoTo 52 ≤ magnitude then infinity negative else signed negative magnitude

/-- The quotient rounded to the nearest natural number, a tie to the even one. -/
def roundQuotient (num den : Nat) : Nat :=
  let low := num / den
  let rest := num % den
  if den < 2 * rest ∨ (2 * rest = den ∧ low % 2 = 1) then low + 1 else low

/-- The fraction `num / den` divided by `2^q`. -/
def overPowerOfTwo (num den : Nat) (q : Int) : Nat × Nat :=
  if 0 ≤ q then (num, den * twoTo q.toNat) else (num * twoTo (-q).toNat, den)

/-- The number nearest to `num / den`, for a positive `den`. -/
def ofRatio (negative : Bool) (num den : Nat) : Binary64 :=
  if num = 0 then zero negative
  else
    let guess := max ((Nat.log2 num : Int) - Nat.log2 den - 52) (-1074)
    let (a, b) := overPowerOfTwo num den guess
    let q := if a < twoTo 52 * b ∧ -1074 < guess then guess - 1 else guess
    let (a, b) := overPowerOfTwo num den q
    pack negative (roundQuotient a b) q

/-- The number nearest to an integer. -/
def ofInt (n : Int) : Binary64 := ofRatio (decide (n < 0)) n.natAbs 1

/-- The number nearest to `digits · 10^exponent`. An exponent so large or so
small that it settles the answer is not multiplied out. -/
def ofDecimal (negative : Bool) (digits : Nat) (exponent : Int) : Binary64 :=
  let places : Int := (Nat.log2 digits : Int) / 3 + 1
  if digits = 0 then zero negative
  else if 400 < exponent then infinity negative
  else if exponent + places < -400 then zero negative
  else if 0 ≤ exponent then ofRatio negative (digits * tenTo exponent.toNat) 1
  else ofRatio negative digits (tenTo (-exponent).toNat)

/-- The magnitude `m · 2^q` as a fraction. -/
def ratio (m : Nat) (q : Int) : Nat × Nat :=
  if 0 ≤ q then (m * twoTo q.toNat, 1) else (m, twoTo (-q).toNat)

def isNegative (x : Binary64) : Bool := twoTo 63 ≤ x.bits.toNat

def isFinite (x : Binary64) : Bool :=
  match x.view with
  | .finite .. => true
  | _ => false

/-- The number as a signed numerator over a positive denominator. -/
def toRatio? (x : Binary64) : Option (Int × Nat) :=
  match x.view with
  | .finite negative m q =>
    let (num, den) := ratio m q
    some (if negative then -(num : Int) else num, den)
  | _ => none

/-- Whether the number has no fraction. -/
def isWhole (x : Binary64) : Bool :=
  match x.toRatio? with
  | some (num, den) => num % den == 0
  | none => false

/-- The integer part, held to the bounds `lo` and `hi`; nothing for NaN. -/
def truncateWithin (lo hi : Int) (x : Binary64) : Int :=
  match x.view with
  | .nan => 0
  | .infinite negative => if negative then lo else hi
  | .finite negative m q =>
    let (num, den) := ratio m q
    let whole : Int := if negative then -((num / den : Nat) : Int) else (num / den : Nat)
    max lo (min hi whole)

/-- Orders two numbers; a NaN stands in no order. Both zeros are equal. -/
def compare? (x y : Binary64) : Option Ordering :=
  match x.view, y.view with
  | .nan, _ | _, .nan => none
  | .infinite a, .infinite b => some (if a == b then .eq else if a then .lt else .gt)
  | .infinite a, _ => some (if a then .lt else .gt)
  | _, .infinite b => some (if b then .gt else .lt)
  | .finite a m q, .finite b n r =>
    let (num₁, den₁) := ratio m q
    let (num₂, den₂) := ratio n r
    let left : Int := (if a then -(num₁ : Int) else num₁) * den₂
    let right : Int := (if b then -(num₂ : Int) else num₂) * den₁
    some (compare left right)

/-- The product, rounded once. -/
def mul (x y : Binary64) : Binary64 :=
  match x.view, y.view with
  | .nan, _ | _, .nan => nan
  | .infinite a, .infinite b => infinity (a != b)
  | .infinite a, .finite b n _ => if n = 0 then nan else infinity (a != b)
  | .finite a m _, .infinite b => if m = 0 then nan else infinity (a != b)
  | .finite a m q, .finite b n r =>
    let (num, den) := ratio (m * n) (q + r)
    ofRatio (a != b) num den

/-- The quotient, rounded once. -/
def div (x y : Binary64) : Binary64 :=
  match x.view, y.view with
  | .nan, _ | _, .nan => nan
  | .infinite _, .infinite _ => nan
  | .infinite a, .finite b _ _ => infinity (a != b)
  | .finite a _ _, .infinite b => zero (a != b)
  | .finite a m q, .finite b n r =>
    if n = 0 then if m = 0 then nan else infinity (a != b)
    else
      let (num₁, den₁) := ratio m q
      let (num₂, den₂) := ratio n r
      ofRatio (a != b) (num₁ * den₂) (den₁ * num₂)

/-- The number with the opposite sign. -/
def neg (x : Binary64) : Binary64 :=
  let n := x.bits.toNat
  signed (!x.isNegative) (n % twoTo 63)

/-- The power for a natural exponent, by repeated squaring, each product rounded. -/
def pow (x : Binary64) (n : Nat) : Binary64 :=
  go (n + 1) (ofInt 1) x n
where
  go : Nat → Binary64 → Binary64 → Nat → Binary64
    | 0, acc, _, _ => acc
    | fuel + 1, acc, base, n =>
      let acc := if n % 2 = 1 then acc.mul base else acc
      if n / 2 = 0 then acc else go fuel acc (base.mul base) (n / 2)

/-- The smaller of two numbers; a NaN gives way to the other. -/
def min (x y : Binary64) : Binary64 :=
  match compare? x y with
  | some .gt => y
  | some _ => x
  | none => if x.view = .nan then y else x

/-- Numbers that compare equal. -/
def same (x y : Binary64) : Bool := compare? x y == some .eq

end Binary64

end MetaGraph
