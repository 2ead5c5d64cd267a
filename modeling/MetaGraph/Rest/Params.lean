/-
What a query adds to each of its requests: headers, pairs of the query
string, credentials and a time limit. Parameters of a single step are laid
over those of the whole chain field by field.
-/
import MetaGraph.Decode.Shape

namespace MetaGraph

/-- A user's name and password. -/
structure BasicAuth where
  username : String
  password : Option String := none
deriving DecidableEq, Repr

namespace BasicAuth

def shape : Shape BasicAuth :=
  Shape.done mk
    |>.required "username" Decoder.string
    |>.optional "password" (Decoder.option Decoder.string) none

def decoder : Decoder BasicAuth := shape.decoder "struct BasicAuth"

def toJson (a : BasicAuth) : Json :=
  .object [("password", Json.ofOption .text a.password), ("username", .text a.username)]

end BasicAuth

/-- What is added to every request of a query. -/
structure RequestParams where
  headers : KeyMap String := []
  /-- Pairs that go to the end of the query string. -/
  query : List (String × String) := []
  basicAuth : Option BasicAuth := none
  bearerToken : Option String := none
  /-- The time limit in milliseconds. -/
  timeout : Option Nat := none
deriving DecidableEq, Repr, Inhabited

namespace RequestParams

def shape : Shape RequestParams :=
  Shape.done mk
    |>.optional "headers" (Decoder.keyMap Decoder.string) []
    |>.optional "query" (Decoder.list (Decoder.pair Decoder.string)) []
    |>.optional "basic_auth" (Decoder.option BasicAuth.decoder) none
    |>.optional "bearer_token" (Decoder.option Decoder.string) none
    |>.optional "timeout_ms" (Decoder.option Decoder.u64) none

def decoder : Decoder RequestParams := shape.decoder "struct RequestParams"

def toJson (p : RequestParams) : Json :=
  .object [
    ("basic_auth", Json.ofOption BasicAuth.toJson p.basicAuth),
    ("bearer_token", Json.ofOption .text p.bearerToken),
    ("headers", .object (p.headers.map fun (name, value) => (name, .text value))),
    ("query", .array (p.query.map fun (name, value) => .array [.text name, .text value])),
    ("timeout_ms", Json.ofOption Json.ofNat p.timeout)]

def withHeader (p : RequestParams) (name value : String) : RequestParams :=
  { p with headers := p.headers.insert name value }

def withBasicAuth (p : RequestParams) (username : String) (password : Option String) :
    RequestParams :=
  { p with basicAuth := some { username, password } }

def withBearerToken (p : RequestParams) (token : String) : RequestParams :=
  { p with bearerToken := some token }

/-- Sets the time limit, given in microseconds, to whole milliseconds. -/
def withTimeout (p : RequestParams) (micros : Nat) : RequestParams :=
  { p with timeout := some (micros / 1000) }

/-- The parameters of a step laid over those of its chain: headers of the same
name are replaced, pairs are added, and any other field that is set counts. -/
def override (chain step : RequestParams) : RequestParams where
  headers := chain.headers.extend step.headers
  query := chain.query ++ step.query
  basicAuth := step.basicAuth <|> chain.basicAuth
  bearerToken := step.bearerToken <|> chain.bearerToken
  timeout := step.timeout <|> chain.timeout

end RequestParams

end MetaGraph
