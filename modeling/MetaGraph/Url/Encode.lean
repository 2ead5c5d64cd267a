/-
Percent encoding. A character is kept or written as its bytes in hexadecimal;
which ones are kept depends on the part of an address. Query pairs are
encoded as forms are, with a plus for a blank.
-/
import MetaGraph.Decimal.Reader
import MetaGraph.Text.Utf8

namespace MetaGraph.Url

/-- A hexadecimal digit in upper case. -/
def hexDigit (n : Nat) : Char :=
  if n < 10 then Char.ofNat ('0'.toNat + n) else Char.ofNat ('A'.toNat + (n - 10))

/-- A byte after a percent sign. -/
def percentByte (b : UInt8) : List Char := ['%', hexDigit (b.toNat / 16), hexDigit (b.toNat % 16)]

/-- A character, encoded if the set does not keep it. -/
def percentChar (keeps : Char → Bool) (c : Char) : List Char :=
  if keeps c then [c] else (String.utf8EncodeChar c).flatMap percentByte

def percentEncode (keeps : Char → Bool) (cs : List Char) : List Char := cs.flatMap (percentChar keeps)

/-- No control character and nothing outside ASCII. -/
def isPrintable (c : Char) : Bool := ' ' ≤ c && c ≤ '~'

/-- A set of characters that are encoded besides the control characters and all
that is not ASCII. -/
def keepsAllBut (encoded : List Char) (c : Char) : Bool := isPrintable c && !encoded.contains c

def fragmentSet : List Char := [' ', '"', '<', '>', '\x60']

def pathSet : List Char := fragmentSet ++ ['#', '?', '\x7b', '\x7d']

def userSet : List Char := pathSet ++ ['/', ':', ';', '=', '@', '[', '\\', ']', '^', '|']

def querySet : List Char := [' ', '"', '#', '<', '>']

/-- The set for queries of the schemes that name hosts. -/
def webQuerySet : List Char := querySet ++ ['\'']

/-- A character of a form: letters, digits and four signs are kept, a blank is a plus. -/
def formChar (c : Char) : List Char :=
  if c = ' ' then ['+']
  else percentChar (fun c => c.isAlphanum || c == '*' || c == '-' || c == '.' || c == '_') c

/-- A name or value of a form. -/
def formEncode (s : String) : List Char := s.toList.flatMap formChar

/-- A pair of a form. -/
def formPair (pair : String × String) : List Char :=
  formEncode pair.1 ++ '=' :: formEncode pair.2

/-- The bytes a text stands for; a percent sign without two digits stands for itself. -/
def percentDecode : List Char → Bytes
  | '%' :: a :: b :: cs =>
    match Decimal.hexDigit? a, Decimal.hexDigit? b with
    | some m, some n => UInt8.ofNat (m * 16 + n) :: percentDecode cs
    | _, _ => UInt8.ofNat '%'.toNat :: percentDecode (a :: b :: cs)
  | c :: cs => String.utf8EncodeChar c ++ percentDecode cs
  | [] => []

end MetaGraph.Url
