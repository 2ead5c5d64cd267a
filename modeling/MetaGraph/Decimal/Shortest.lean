/-
The shortest decimal that reads back as a given binary64 number, and how
decimals are laid out. A grid of `n` digits is tried for `n = 1, 2, …, 17`
in exact arithmetic; of the two neighbours of the number on the grid, one
that rounds to the number is a hit, and the nearer hit is taken.
-/
import MetaGraph.Decimal.Binary64
import MetaGraph.Decimal.Power

namespace MetaGraph

namespace Binary64

/-- How often `num` must be multiplied by ten to reach `den`. -/
def tensBelow : Nat → Nat → Nat → Nat
  | 0, _, _ => 0
  | fuel + 1, num, den => if den ≤ num then 0 else tensBelow fuel (num * 10) den + 1

/-- The exponent of ten of the first digit of `num / den`. -/
def leadingExponent (num den : Nat) : Int :=
  if den ≤ num then ((Nat.toDigits 10 (num / den)).length : Int) - 1
  else -(tensBelow 400 num den : Int)

/-- The number `d · 10^k` as a fraction. -/
def powerOfTen (d : Nat) (k : Int) : Nat × Nat :=
  if 0 ≤ k then (d * tenTo k.toNat, 1) else (d, tenTo (-k).toNat)

/-- Whether `d · 10^k` rounds to `m · 2^q`. The lower half-gap is halved below
a power of two; the ends belong to the interval for an even `m`. -/
def roundsTo (m : Nat) (q : Int) (d : Nat) (k : Int) : Bool :=
  let (a, b) := powerOfTen d k
  let narrow := m = twoTo 52 ∧ -1074 < q
  let low := if narrow then ratio (4 * m - 1) (q - 2) else ratio (2 * m - 1) (q - 1)
  let high := ratio (2 * m + 1) (q - 1)
  if m % 2 = 0 then low.1 * b ≤ a * low.2 && a * high.2 ≤ high.1 * b
  else low.1 * b < a * low.2 && a * high.2 < high.1 * b

/-- The hit on the grid of unit `10^k`, if there is one. -/
def gridHit (m : Nat) (q : Int) (k : Int) : Option Nat :=
  let (num, den) := ratio m q
  let (a, b) := powerOfTen 1 k
  let below := num * b / (den * a)
  let rest := num * b % (den * a)
  let above := below + 1
  match roundsTo m q below k, roundsTo m q above k with
  | true, true =>
    if 2 * rest < den * a then some below
    else if den * a < 2 * rest then some above
    else if below % 2 = 0 then some below else some above
  | true, false => some below
  | false, true => some above
  | false, false => none

/-- Takes the zeros off the end of `d`, raising the exponent. -/
def dropZeros : Nat → Nat → Int → Nat × Int
  | 0, d, k => (d, k)
  | fuel + 1, d, k => if d % 10 = 0 ∧ d ≠ 0 then dropZeros fuel (d / 10) (k + 1) else (d, k)

/-- The first grid with a hit, from `n` digits on. -/
def shortestFrom (m : Nat) (q : Int) (lead : Int) : Nat → Nat → Nat × Int
  | 0, _ => (m, 0)
  | fuel + 1, n =>
    let k := lead - n + 1
    match gridHit m q k with
    | some d => dropZeros 20 d k
    | none => shortestFrom m q lead fuel (n + 1)

/-- Digits and exponent of ten of the shortest decimal for `m · 2^q`, `m` positive. -/
def shortest (m : Nat) (q : Int) : Nat × Int :=
  let (num, den) := ratio m q
  shortestFrom m q (leadingExponent num den) 17 1

/-- How a decimal is written. -/
structure Layout where
  /-- The point may stand after this many digits at least and at most (counted
  from the first digit, negative in front of it) for the number to be written
  out; otherwise an exponent is used. Without bounds it is always written out. -/
  window : Option (Int × Int)
  /-- Whether a whole number keeps `.0`. -/
  keepsPoint : Bool

/-- Numbers in JSON text: written out up to sixteen digits before the point and
four zeros after it, whole numbers with `.0`, an exponent with its sign. -/
def Layout.json : Layout := ⟨some (-4, 16), true⟩

/-- Numbers in running text: always written out, whole numbers without a point. -/
def Layout.plain : Layout := ⟨none, false⟩

/-- The digits `ds` with the point after `p` of them. -/
def Layout.writtenOut (l : Layout) (ds : List Char) (p : Int) : List Char :=
  if p ≤ 0 then ['0', '.'] ++ List.replicate (-p).toNat '0' ++ ds
  else
    let whole := p.toNat
    if ds.length ≤ whole then
      ds ++ List.replicate (whole - ds.length) '0' ++ (if l.keepsPoint then ['.', '0'] else [])
    else ds.take whole ++ '.' :: ds.drop whole

/-- The digits `ds` with the point after the first one and an exponent. -/
def Layout.withExponent (ds : List Char) (p : Int) : List Char :=
  let mantissa :=
    match ds with
    | d :: e :: es => d :: '.' :: e :: es
    | ds => ds
  let e := p - 1
  mantissa ++ ['e', if e < 0 then '-' else '+'] ++ Nat.toDigits 10 e.natAbs

/-- A positive decimal. -/
def Layout.magnitude (l : Layout) (digits : Nat) (k : Int) : List Char :=
  let ds := Nat.toDigits 10 digits
  let p := (ds.length : Int) + k
  match l.window with
  | none => l.writtenOut ds p
  | some (lo, hi) => if lo ≤ p && p ≤ hi then l.writtenOut ds p else Layout.withExponent ds p

/-- The text of a number. -/
def text (l : Layout) (x : Binary64) : String :=
  match x.view with
  | .nan => "NaN"
  | .infinite negative => if negative then "-inf" else "inf"
  | .finite negative m q =>
    let front := if negative then ['-'] else []
    let body :=
      if m = 0 then if l.keepsPoint then ['0', '.', '0'] else ['0']
      else
        let (digits, k) := shortest m q
        l.magnitude digits k
    String.ofList (front ++ body)

end Binary64

end MetaGraph
