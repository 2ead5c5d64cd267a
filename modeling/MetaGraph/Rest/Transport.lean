/-
Requests and what comes of them. How a request is carried out is left to a
network: a function from a request and the state of the world to a reply and
a new state. A request that cannot be put together never reaches the network.
-/
import MetaGraph.Json.Parser
import MetaGraph.Rest.Error
import MetaGraph.Rest.Params
import MetaGraph.Url.Basic

namespace MetaGraph

/-- A request for the content of an address. -/
structure Request where
  /-- The address without its user's part. -/
  url : Url
  /-- The headers in the order in which they were added; a name may occur again. -/
  headers : List (String × String) := []
  timeout : Option Nat := none
deriving DecidableEq, Repr

/-- What comes of a request. -/
inductive Reply where
  /-- No answer came. -/
  | failed (message : String) (timeout : Bool)
  | answer (status : Nat) (body : Bytes)
deriving DecidableEq, Repr

/-- How requests are carried out and time passes. -/
structure Network (σ : Type) where
  send : Request → σ → Reply × σ
  /-- Lets a number of milliseconds pass. -/
  wait : Nat → σ → σ

namespace Request

/-- Six bits as a digit of base 64. -/
def base64Digit (n : Nat) : Char :=
  if n < 26 then Char.ofNat ('A'.toNat + n)
  else if n < 52 then Char.ofNat ('a'.toNat + (n - 26))
  else if n < 62 then Char.ofNat ('0'.toNat + (n - 52))
  else if n = 62 then '+' else '/'

/-- Bytes in base 64, three of them as four digits. -/
def base64 : Bytes → List Char
  | [] => []
  | [a] =>
    let n := a.toNat * 65536
    [base64Digit (n / 262144), base64Digit (n / 4096 % 64), '=', '=']
  | [a, b] =>
    let n := a.toNat * 65536 + b.toNat * 256
    [base64Digit (n / 262144), base64Digit (n / 4096 % 64), base64Digit (n / 64 % 64), '=']
  | a :: b :: c :: rest =>
    let n := a.toNat * 65536 + b.toNat * 256 + c.toNat
    base64Digit (n / 262144) :: base64Digit (n / 4096 % 64) :: base64Digit (n / 64 % 64) ::
      base64Digit (n % 64) :: base64 rest

def authorization : String := "authorization"

/-- The header of a user's name and password. -/
def basicHeader (user password : Bytes) : String × String :=
  (authorization, "Basic " ++ String.ofList (base64 (user ++ 58 :: password)))

def bearerHeader (token : String) : String × String := (authorization, "Bearer " ++ token)

/-- Characters of which the name of a header is made. -/
def isNameChar (c : Char) : Bool :=
  c.isAlphanum || ['!', '#', '$', '%', '&', '\'', '*', '+', '-', '.', '^', '_', '\x60', '|', '~'].contains c

def isHeaderName (s : String) : Bool := s ≠ "" && s.toList.all isNameChar

/-- Whether a text may be the value of a header: no control characters but tabs. -/
def isHeaderValue (s : String) : Bool :=
  s.toList.all fun c => c == '\t' || (' ' ≤ c && c ≠ '\x7f')

/-- What went wrong while a request was put together, in words. -/
def unbuildable (about : Option Url) : String :=
  match about with
  | some url => "builder error for url (" ++ url.text ++ ")"
  | none => "builder error"

/-- The user's part of an address as a header. -/
def userHeaders (url : Url) : List (String × String) :=
  if url.user = "" ∧ url.password = "" then []
  else [basicHeader (Url.percentDecode url.user.toList) (Url.percentDecode url.password.toList)]

/-- The header of a user's name and password as parameters give them. -/
def BasicAuth.header (a : BasicAuth) : String × String :=
  basicHeader (Utf8.encode a.username) (Utf8.encode (a.password.getD ""))

/-- The request for an address with the given parameters: the user's part of the
address, the headers, then the credentials, each as a header of its own. -/
def build (url : Url) (p : RequestParams) : Except String Request :=
  if url.host.isNone then .error (unbuildable (some url))
  else if p.headers.any fun h => !isHeaderName h.1 || !isHeaderValue h.2 then .error (unbuildable none)
  else if p.bearerToken.any fun t => !isHeaderValue t then .error (unbuildable none)
  else
    let named := p.headers.map fun (name, value) => (String.ofList (name.toList.map Char.toLower), value)
    let request : Request :=
      { url := url.withoutUser.withPairs p.query
        headers := userHeaders url ++ named ++ (p.basicAuth.map BasicAuth.header).toList ++
          (p.bearerToken.map bearerHeader).toList
        timeout := p.timeout }
    if request.url.scheme = "http" ∨ request.url.scheme = "https" then .ok request
    else .error (unbuildable (some request.url))

end Request

namespace Reply

/-- The wording for a body that is no JSON value. -/
def undecodable : String := "error decoding response body"

/-- The value a reply holds. `address` names the request in faults. -/
def value (address : String) : Reply → Except RestError Json
  | failed message timeout => .error (.transport address message timeout)
  | answer status body =>
    if status < 200 ∨ 299 < status then .error (.http address status)
    else
      match Utf8.decode body with
      | .error _ => .error (.invalidResponse address undecodable)
      | .ok text =>
        match Json.parse? text with
        | some v => .ok v
        | none => .error (.invalidResponse address undecodable)

end Reply

/-- Asks for the value at an address. -/
def RequestParams.fetch {σ : Type} (p : RequestParams) (net : Network σ) (url : Url) (s : σ) :
    Except RestError Json × σ :=
  let address := url.text
  match Request.build url p with
  | .error message => (.error (.transport address message false), s)
  | .ok request =>
    let (reply, s) := net.send request s
    (reply.value address, s)

end MetaGraph
