/-
Hosts of addresses: names, which are put into ASCII and lower case, and
numeric addresses, which are put into their usual form. A name whose last
part is a number is taken for a numeric address.
-/
import MetaGraph.Text.Case
import MetaGraph.Text.Pieces
import MetaGraph.Url.Encode
import MetaGraph.Url.Punycode

namespace MetaGraph.Url

/-- Why a text is no address. -/
inductive UrlFault where
  | emptyHost
  | invalidDomain
  | invalidPort
  | invalidIpv4
  | invalidIpv6
  | invalidDomainCharacter
  | relative
deriving DecidableEq, Repr

def UrlFault.message : UrlFault → String
  | emptyHost => "empty host"
  | invalidDomain => "invalid international domain name"
  | invalidPort => "invalid port number"
  | invalidIpv4 => "invalid IPv4 address"
  | invalidIpv6 => "invalid IPv6 address"
  | invalidDomainCharacter => "invalid domain character"
  | relative => "relative URL without a base"

/-! ## Addresses of four parts -/

/-- A part that is a number: in base 16 after `0x`, in base 8 after `0`. The number
may be too large to count. -/
def ipv4Part? (cs : List Char) : Option Nat :=
  let number (base : Nat) (ds : List Char) : Option Nat :=
    if ds.all fun c => (Decimal.hexDigit? c).any fun d => decide (d < base) then
      some (ds.foldl (fun n c => n * base + (Decimal.hexDigit? c).getD 0) 0)
    else none
  match cs with
  | [] => none
  | '0' :: 'x' :: ds => number 16 ds
  | '0' :: 'X' :: ds => number 16 ds
  | ['0'] => some 0
  | '0' :: ds => number 8 ds
  | ds => number 10 ds

/-- The parts of a name between its points, without an empty last one. -/
def nameParts (name : List Char) : List (List Char) :=
  let parts := Text.splitChars '.' name
  if 1 < parts.length ∧ parts.getLast? = some [] then parts.dropLast else parts

/-- Whether the last part of a name is a number. -/
def endsInNumber (name : List Char) : Bool :=
  match (nameParts name).getLast? with
  | some last => (last ≠ [] && last.all Char.isDigit) || (ipv4Part? last).isSome
  | none => false

/-- The numeric address that a name stands for, in its usual form. -/
def ipv4 (name : List Char) : Except UrlFault String := do
  let parts := nameParts name
  let numbers ←
    match parts.mapM ipv4Part? with
    | some numbers => .ok numbers
    | none => .error UrlFault.invalidIpv4
  let front := numbers.dropLast
  let last := numbers.getLast?.getD 0
  if 4 < parts.length ∨ Nat.pow 256 (4 - front.length) ≤ last ∨ front.any (255 < ·) then
    .error .invalidIpv4
  else
    let rest := (List.range (4 - front.length)).reverse.map fun i => last / Nat.pow 256 i % 256
    .ok (".".intercalate ((front ++ rest).map toString))

/-! ## Addresses of eight parts -/

/-- The part that up to four hexadecimal digits write. -/
def ipv6Part? (cs : List Char) : Option Nat :=
  if cs = [] ∨ 4 < cs.length then none
  else (cs.mapM Decimal.hexDigit?).map fun ds => ds.foldl (fun n d => n * 16 + d) 0

/-- The two parts that an address of four decimal numbers makes. -/
def embeddedIpv4? (cs : List Char) : Option (List Nat) := do
  let numbers ← (Text.splitChars '.' cs).mapM fun ds =>
    if ds = [] ∨ 3 < ds.length ∨ ds.any (fun c => !c.isDigit) ∨ (1 < ds.length ∧ ds.head? = some '0')
    then none
    else
      let n := Decimal.digitsValue ds
      if n < 256 then some n else none
  match numbers with
  | [a, b, c, d] => some [a * 256 + b, c * 256 + d]
  | _ => none

/-- Parts with colons between them, the last of which may be four decimal numbers. -/
def ipv6Parts? (cs : List Char) : Option (List Nat) :=
  if cs = [] then some []
  else do
    let parts := Text.splitChars ':' cs
    let last := parts.getLast?.getD []
    let front ← parts.dropLast.mapM ipv6Part?
    let tail ← if last.contains '.' then embeddedIpv4? last else (ipv6Part? last).map ([·])
    some (front ++ tail)

/-- The text before and after the first two colons in a row. -/
def cutDoubleColon : List Char → Option (List Char × List Char)
  | ':' :: ':' :: cs => some ([], cs)
  | c :: cs => (cutDoubleColon cs).map fun (a, b) => (c :: a, b)
  | [] => none

/-- The eight parts of an address; two colons stand for as many zeros as are missing. -/
def ipv6Pieces? (cs : List Char) : Option (List Nat) := do
  match cutDoubleColon cs with
  | some (a, b) =>
    let a ← if a.contains '.' then none else ipv6Parts? a
    let b ← ipv6Parts? b
    if 8 ≤ a.length + b.length then none
    else some (a ++ List.replicate (8 - a.length - b.length) 0 ++ b)
  | none =>
    let parts ← ipv6Parts? cs
    if parts.length = 8 then some parts else none

/-- How many zeros stand at the front. -/
def zeroRun (parts : List Nat) : Nat := (parts.takeWhile (· == 0)).length

/-- Where the first of the longest runs of at least two zeros starts. -/
def longestRun (parts : List Nat) : Option (Nat × Nat) :=
  let runs := (List.range parts.length).map fun i => (i, zeroRun (parts.drop i))
  let best := runs.foldl (fun b r => if b.2 < r.2 then r else b) (0, 0)
  if 2 ≤ best.2 then some best else none

def hexText (n : Nat) : String := String.ofList (Nat.toDigits 16 n)

/-- An address of eight parts in its usual form. -/
def ipv6Text (parts : List Nat) : String :=
  let join (parts : List Nat) : String := ":".intercalate (parts.map hexText)
  match longestRun parts with
  | some (start, length) =>
    "[" ++ join (parts.take start) ++ "::" ++ join (parts.drop (start + length)) ++ "]"
  | none => "[" ++ join parts ++ "]"

/-! ## Names -/

/-- Characters that may not stand in the name of a host. -/
def isForbidden (c : Char) : Bool :=
  c ≤ ' ' || c == '\x7f' || ['%', '#', '/', ':', '<', '>', '?', '@', '[', '\\', ']', '^', '|'].contains c

/-- What a character of a name is mapped to: lower case, and the plain form of a
full-width one; some characters do not count. -/
def mapNameChar (c : Char) : List Char :=
  let n := c.toNat
  if n = 0xAD ∨ n = 0x200B ∨ n = 0x2060 ∨ n = 0xFEFF then []
  else if n = 0x3002 ∨ n = 0xFF61 then ['.']
  else if 0xFF01 ≤ n ∧ n ≤ 0xFF5E then [(Char.ofNat (n - 0xFEE0)).toLower]
  else (Text.lower c.toString).toList

/-- The mark of a label that is put into ASCII. -/
def asciiMark : List Char := ['x', 'n', '-', '-']

/-- A label in ASCII. One that is marked has to be what its characters are put into. -/
def asciiLabel (label : List Char) : Except UrlFault (List Char) :=
  if label.all fun c => c.toNat < 128 then
    if label.take 4 = asciiMark then
      match Punycode.decode? (label.drop 4) with
      | some cs =>
        if cs.any (fun c => 128 ≤ c.toNat) ∧ Punycode.encode cs = label.drop 4 then .ok label
        else .error .invalidDomain
      | none => .error .invalidDomain
    else .ok label
  else .ok (asciiMark ++ Punycode.encode label)

/-- The host a name stands for. -/
def domain (cs : List Char) : Except UrlFault String := do
  let text ←
    match Utf8.decode (percentDecode cs) with
    | .ok s => .ok s.toList
    | .error _ => .error UrlFault.invalidDomain
  let name := text.flatMap mapNameChar
  if name.any isForbidden then .error .invalidDomain
  else
    let labels ← (Text.splitChars '.' name).mapM asciiLabel
    let name := Text.joinChars '.' labels
    if name = [] then .error .emptyHost
    else if endsInNumber name then ipv4 name
    else .ok (String.ofList name)

/-- An address in brackets, after the opening one. -/
def bracketed (cs : List Char) : Except UrlFault String :=
  if cs.getLast? = some ']' then
    match ipv6Pieces? cs.dropLast with
    | some parts => .ok (ipv6Text parts)
    | none => .error .invalidIpv6
  else .error .invalidIpv6

/-- The host of an address whose scheme names hosts. -/
def webHost : List Char → Except UrlFault String
  | '[' :: cs => bracketed cs
  | cs => domain cs

/-- Characters that may not stand in a host of any other scheme. -/
def isForbiddenInOpaque (c : Char) : Bool :=
  ['\x00', '\t', '\n', '\r', ' ', '#', '/', ':', '<', '>', '?', '@', '[', '\\', ']', '^', '|'].contains c

/-- The host of an address of any other scheme. -/
def opaqueHost : List Char → Except UrlFault String
  | '[' :: cs => bracketed cs
  | cs =>
    if cs.any isForbiddenInOpaque then .error .invalidDomainCharacter
    else .ok (String.ofList (percentEncode (keepsAllBut []) cs))

end MetaGraph.Url
