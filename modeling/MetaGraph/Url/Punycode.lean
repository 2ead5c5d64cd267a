/-
Labels of host names in ASCII. The characters that are not ASCII are left out
of a label and told, in increasing order, by the distances between their
places, written to a base of 36 with digits whose weight adapts.
-/

namespace MetaGraph.Url.Punycode

/-- The digit of a value below 36. -/
def digit (d : Nat) : Char :=
  if d < 26 then Char.ofNat ('a'.toNat + d) else Char.ofNat ('0'.toNat + (d - 26))

def digitValue? (c : Char) : Option Nat :=
  if 'a' ≤ c ∧ c ≤ 'z' then some (c.toNat - 'a'.toNat)
  else if 'A' ≤ c ∧ c ≤ 'Z' then some (c.toNat - 'A'.toNat)
  else if c.isDigit then some (c.toNat - '0'.toNat + 26)
  else none

/-- The least value at which a digit at place `k` is the last one. -/
def threshold (k bias : Nat) : Nat :=
  if k ≤ bias then 1 else if bias + 26 ≤ k then 26 else k - bias

/-- The bias for the next distance. -/
def adapt (delta count : Nat) (isFirst : Bool) : Nat :=
  let delta := if isFirst then delta / 700 else delta / 2
  shrink 64 (delta + delta / count) 0
where
  shrink : Nat → Nat → Nat → Nat
    | 0, delta, k => k + 36 * delta / (delta + 38)
    | fuel + 1, delta, k =>
      if 455 < delta then shrink fuel (delta / 35) (k + 36) else k + 36 * delta / (delta + 38)

/-- The digits of a distance. -/
def distance : Nat → Nat → Nat → Nat → List Char
  | 0, _, _, _ => []
  | fuel + 1, q, k, bias =>
    let t := threshold k bias
    if q < t then [digit q]
    else digit (t + (q - t) % (36 - t)) :: distance fuel ((q - t) / (36 - t)) (k + 36) bias

/-- How far the encoding has come: all characters below `n` are told. -/
structure Progress where
  n : Nat
  delta : Nat
  bias : Nat
  told : Nat
  output : List Char

/-- Passes over one character of the label while those with the number `p.n` are told. -/
def tell (basic : Nat) (p : Progress) (c : Char) : Progress :=
  if c.toNat < p.n then { p with delta := p.delta + 1 }
  else if c.toNat = p.n then
    { p with
      output := p.output ++ distance 64 p.delta 36 p.bias
      bias := adapt p.delta (p.told + 1) (p.told == basic)
      delta := 0
      told := p.told + 1 }
  else p

/-- Tells the characters above those told, the least ones first. -/
def rounds (label : List Char) (basic : Nat) : Nat → Progress → Progress
  | 0, p => p
  | fuel + 1, p =>
    match (label.filter fun c => p.n ≤ c.toNat).map Char.toNat |>.min? with
    | none => p
    | some m =>
      let p := { p with delta := p.delta + (m - p.n) * (p.told + 1), n := m }
      let p := label.foldl (tell basic) p
      rounds label basic fuel { p with delta := p.delta + 1, n := p.n + 1 }

/-- A label in ASCII, without the mark in front. -/
def encode (label : List Char) : List Char :=
  let basic := label.filter fun c => c.toNat < 128
  let start := if basic = [] then [] else basic ++ ['-']
  (rounds label basic.length (label.length + 1) ⟨128, 0, 72, basic.length, start⟩).output

/-- Reads one distance: its value added to `i`, and the text after it. -/
def readDistance : Nat → Nat → Nat → Nat → List Char → Option (Nat × List Char)
  | i, w, k, bias, c :: cs => do
    let d ← digitValue? c
    let i := i + d * w
    let t := threshold k bias
    if 4294967296 ≤ i then none
    else if d < t then some (i, cs)
    else readDistance i (w * (36 - t)) (k + 36) bias cs
  | _, _, _, _, [] => none

/-- Puts the characters told by `cs` into the label. -/
def place : Nat → Nat → Nat → Nat → List Char → List Char → Option (List Char)
  | 0, _, _, _, _, _ => none
  | _ + 1, _, _, _, label, [] => some label
  | fuel + 1, n, i, bias, label, cs => do
    let (next, cs) ← readDistance i 1 36 bias cs
    let count := label.length + 1
    let bias := adapt (next - i) count (i == 0 && n == 128)
    let n := n + next / count
    let at_ := next % count
    if n.isValidChar then
      place fuel n (at_ + 1) bias (label.take at_ ++ Char.ofNat n :: label.drop at_) cs
    else none

/-- The label told by `cs`, without the mark in front. -/
def decode? (cs : List Char) : Option (List Char) :=
  let told := (cs.reverse.takeWhile (· ≠ '-')).reverse
  let basic := (cs.take (cs.length - told.length)).dropLast
  if cs.all fun c => c.toNat < 128 then place (told.length + 1) 128 0 72 basic told else none

end MetaGraph.Url.Punycode
