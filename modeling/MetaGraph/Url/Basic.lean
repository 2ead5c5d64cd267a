/-
Addresses of resources: their parts, their text, and how one is read from a
text. Reading puts an address into its usual form: scheme and host in lower
case, no default port, no dot segments, everything unusual encoded.
-/
import MetaGraph.Url.Host

namespace MetaGraph

/-- An absolute address. -/
structure Url where
  scheme : String
  /-- User name and password, encoded. -/
  user : String := ""
  password : String := ""
  host : Option String := none
  port : Option Nat := none
  path : String := ""
  query : Option String := none
  fragment : Option String := none
deriving DecidableEq, Repr, Inhabited

namespace Url

/-- The user's part of an address, with its sign. -/
def userText (u : Url) : String :=
  if u.user = "" ∧ u.password = "" then ""
  else u.user ++ (if u.password = "" then "" else ":" ++ u.password) ++ "@"

/-- The text of an address. -/
def text (u : Url) : String :=
  let authority :=
    match u.host with
    | some host =>
      let port :=
        match u.port with
        | some n => ":" ++ toString n
        | none => ""
      "//" ++ u.userText ++ host ++ port
    | none =>
      if u.scheme = "file" then "//" else if u.path.toList.take 2 = ['/', '/'] then "/." else ""
  let query :=
    match u.query with
    | some q => "?" ++ q
    | none => ""
  let fragment :=
    match u.fragment with
    | some f => "#" ++ f
    | none => ""
  u.scheme ++ ":" ++ authority ++ u.path ++ query ++ fragment

/-- The address with one more pair in its query. -/
def withPair (u : Url) (name value : String) : Url :=
  let pair := String.ofList (formPair (name, value))
  let query :=
    match u.query with
    | some q => if q = "" then pair else q ++ "&" ++ pair
    | none => pair
  { u with query := some query }

/-- The address with pairs added to its query in their order. -/
def withPairs (u : Url) (pairs : List (String × String)) : Url :=
  pairs.foldl (fun u pair => u.withPair pair.1 pair.2) u

/-- The address without its user's part. -/
def withoutUser (u : Url) : Url := { u with user := "", password := "" }

/-! ## Reading -/

/-- How a scheme is read. -/
inductive Kind where
  /-- A scheme that always names a host, with its default port. -/
  | web (port : Nat)
  | file
  | other
deriving DecidableEq, Repr

def kindOf (scheme : String) : Kind :=
  match scheme with
  | "http" | "ws" => .web 80
  | "https" | "wss" => .web 443
  | "ftp" => .web 21
  | "file" => .file
  | _ => .other

namespace Kind

def isSpecial : Kind → Bool
  | other => false
  | _ => true

def defaultPort? : Kind → Option Nat
  | web port => some port
  | _ => none

/-- Whether `c` divides the path; backslashes do so only in special schemes. -/
def isSlash (k : Kind) (c : Char) : Bool := c == '/' || (k.isSpecial && c == '\\')

/-- Whether `c` ends the part of the address that names user, host and port. -/
def endsAuthority (k : Kind) (c : Char) : Bool := k.isSlash c || c == '?' || c == '#'

end Kind

/-- Control characters and blanks. -/
def isControlOrSpace (c : Char) : Bool := c ≤ ' '

/-- The characters that count: none of the control characters and blanks at the
ends, and neither tabs nor line breaks. -/
def significant (cs : List Char) : List Char :=
  let trimmed := ((cs.dropWhile isControlOrSpace).reverse.dropWhile isControlOrSpace).reverse
  trimmed.filter fun c => c ≠ '\t' && c ≠ '\n' && c ≠ '\r'

/-- The scheme, in lower case, and what follows its colon. -/
def scheme? (cs : List Char) : Option (String × List Char) :=
  match cs with
  | c :: _ =>
    if c.isAlpha then
      let body := cs.takeWhile fun c => c.isAlphanum || c == '+' || c == '-' || c == '.'
      match cs.drop body.length with
      | ':' :: rest => some (String.ofList (body.map Char.toLower), rest)
      | _ => none
    else none
  | [] => none

/-- Whether a segment stays where it is. -/
def isSingleDot (segment : String) : Bool := [".", "%2e"].contains segment.toLower

/-- Whether a segment goes up. -/
def isDoubleDot (segment : String) : Bool := ["..", ".%2e", "%2e.", "%2e%2e"].contains segment.toLower

/-- The segments of a path after its first slash, encoded. -/
def segments (k : Kind) (cs : List Char) : List String :=
  let slashed := cs.map fun c => if k.isSlash c then '/' else c
  (Text.splitChars '/' slashed).map fun s => String.ofList (percentEncode (keepsAllBut pathSet) s)

/-- The segments without those that stay or go up; one of these at the end leaves
an empty segment. The segments that lead to the place come last one first. -/
def resolve : List String → List String → List String
  | done, [] => done.reverse
  | done, [s] =>
    if isDoubleDot s then ("" :: done.drop 1).reverse
    else if isSingleDot s then ("" :: done).reverse
    else (s :: done).reverse
  | done, s :: rest =>
    if isDoubleDot s then resolve (done.drop 1) rest
    else if isSingleDot s then resolve done rest
    else resolve (s :: done) rest

/-- A path that starts with a slash. -/
def rootedPath (k : Kind) (cs : List Char) : String :=
  "/" ++ "/".intercalate (resolve [] (segments k cs))

/-- The path after the part that names user, host and port. -/
def pathAfterHost (k : Kind) (cs : List Char) : String :=
  match cs with
  | [] => if k.isSpecial then "/" else ""
  | c :: rest => if k.isSlash c then rootedPath k rest else rootedPath k cs

/-- The path, query and fragment of a text, not yet encoded. -/
def cutTail (cs : List Char) : List Char × Option (List Char) × Option (List Char) :=
  let before := cs.takeWhile (· ≠ '#')
  let fragment :=
    match cs.drop before.length with
    | _ :: f => some f
    | [] => none
  let path := before.takeWhile (· ≠ '?')
  let query :=
    match before.drop path.length with
    | _ :: q => some q
    | [] => none
  (path, query, fragment)

/-- The address with an encoded query and fragment. -/
def withTail (u : Url) (k : Kind) (query fragment : Option (List Char)) : Url :=
  let keeps := keepsAllBut (if k.isSpecial then webQuerySet else querySet)
  { u with
    query := query.map fun q => String.ofList (percentEncode keeps q)
    fragment := fragment.map fun f => String.ofList (percentEncode (keepsAllBut fragmentSet) f) }

/-- A port: at most 65535, and none if it is the default one. -/
def port? (k : Kind) (cs : List Char) : Except UrlFault (Option Nat) :=
  if cs.any fun c => !c.isDigit then .error .invalidPort
  else
    let n := Decimal.digitsValue cs
    if 65535 < n then .error .invalidPort
    else .ok (if cs = [] ∨ k.defaultPort? = some n then none else some n)

/-- The length of the host at the front: up to a colon outside brackets. -/
def hostLength (inBrackets : Bool) : List Char → Nat
  | [] => 0
  | c :: cs =>
    if c = ':' ∧ !inBrackets then 0
    else hostLength (if c = '[' then true else if c = ']' then false else inBrackets) cs + 1

/-- The user name and password before the last at sign, encoded, and what follows
it; the flag tells whether there is an at sign. -/
def cutUser (cs : List Char) : String × String × Bool × List Char :=
  let after := (cs.reverse.takeWhile (· ≠ '@')).reverse
  if after.length = cs.length then ("", "", false, cs)
  else
    let info := cs.take (cs.length - after.length - 1)
    let user := info.takeWhile (· ≠ ':')
    let encode (cs : List Char) : String := String.ofList (percentEncode (keepsAllBut userSet) cs)
    (encode user, encode (info.drop (user.length + 1)), true, after)

/-- The address with user, host and port read from the text between the slashes. -/
def withAuthority (u : Url) (k : Kind) (cs : List Char) : Except UrlFault Url := do
  let (user, password, hasUser, rest) := cutUser cs
  let length := hostLength false rest
  let name := rest.take length
  let portText := rest.drop length
  if name = [] ∧ (k.isSpecial ∨ hasUser ∨ portText ≠ []) then .error .emptyHost
  else
    let host ← if k.isSpecial then webHost name else opaqueHost name
    let port ← port? k (portText.drop 1)
    .ok { u with user, password, host := some host, port }

/-- The host of a file's address; the local one is not named. -/
def fileHost (name : List Char) : Except UrlFault (Option String) := do
  if name = [] then .ok none
  else
    let host ← webHost name
    .ok (if host = "localhost" then none else some host)

/-- An address after the colon of its scheme. -/
def afterScheme (scheme : String) (cs : List Char) : Except UrlFault Url := do
  let k := kindOf scheme
  let start : Url := { scheme }
  let (front, query, fragment) := cutTail cs
  match k with
  | .web _ =>
    let body := front.dropWhile k.isSlash
    let authority := body.takeWhile fun c => !k.endsAuthority c
    let u ← start.withAuthority k authority
    pure ({ u with path := pathAfterHost k (body.drop authority.length) }.withTail k query fragment)
  | .file =>
    let slashes := (front.takeWhile k.isSlash).length
    if 2 ≤ slashes then
      let body := front.drop 2
      let name := body.takeWhile fun c => !k.endsAuthority c
      let host ← fileHost name
      let rest := (body.drop name.length).dropWhile k.isSlash
      pure ({ start with host, path := rootedPath k rest }.withTail k query fragment)
    else
      pure ({ start with path := rootedPath k (front.drop slashes) }.withTail k query fragment)
  | .other =>
    match front with
    | '/' :: '/' :: body =>
      let authority := body.takeWhile fun c => !k.endsAuthority c
      let u ← start.withAuthority k authority
      pure ({ u with path := pathAfterHost k (body.drop authority.length) }.withTail k query fragment)
    | '/' :: rest => pure ({ start with path := rootedPath k rest }.withTail k query fragment)
    | cs =>
      pure ({ start with path := String.ofList (percentEncode (keepsAllBut []) cs) }.withTail k
        query fragment)

/-- The address a text writes. -/
def parse (s : String) : Except UrlFault Url :=
  match scheme? (significant s.toList) with
  | some (scheme, rest) => afterScheme scheme rest
  | none => .error .relative

end Url

end MetaGraph
