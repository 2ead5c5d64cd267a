/-
Writing CSV rows. A field that does not read as a number is put between
quotes, and a quote inside it is written twice.
-/
import MetaGraph.Csv.Reader
import MetaGraph.Decimal.Reader

namespace MetaGraph.Csv

/-- A text between quotes. -/
def inQuotes (s : Bytes) : Bytes :=
  [quote] ++ (s.flatMap fun b => if b = quote then [quote, quote] else [b]) ++ [quote]

/-- How a field is written. -/
def fieldBytes (s : String) : Bytes :=
  if Decimal.isNumeric s.toList then Utf8.encode s else inQuotes (Utf8.encode s)

/-- The fields with commas between them. -/
def joinFields : List Bytes → Bytes
  | [] => []
  | [f] => f
  | f :: fs => f ++ comma :: joinFields fs

/-- A row with its line break. -/
def rowBytes (row : List String) : Bytes := joinFields (row.map fieldBytes) ++ [lineFeed]

end MetaGraph.Csv
