/-
Reading a TOML document: assignments before the first heading, then headings
with their assignments, a line each. A text that is no document is refused
as a whole.
-/
import MetaGraph.Toml.Scalar
import MetaGraph.Toml.Tree

namespace MetaGraph.Toml

/-! ## Keys -/

/-- A key without dots: a bare word or a string on one line. -/
def simpleKey? : Scan String := fun cs =>
  match shortString? cs with
  | some found => some found
  | none =>
    let word := cs.takeWhile isBareKey
    if word = [] then none else some (String.ofList word, cs.drop word.length)

/-- Keys divided by dots, with spaces around each. -/
def keys? : Nat → Scan (List String)
  | 0, _ => none
  | fuel + 1, cs => do
    let (k, rest) ← simpleKey? (skipSpaces cs)
    match skipSpaces rest with
    | '.' :: rest =>
      let (ks, rest) ← keys? fuel rest
      some (k :: ks, rest)
    | rest => some ([k], rest)

/-- How many parts a dotted key may have, and how deep values may be nested: less
than this number. -/
def limit : Nat := 80

/-- A dotted key: the steps to its table, and its name there. -/
def key? : Scan (List String × String) := fun cs => do
  let (ks, rest) ← keys? (cs.length + 1) cs
  if limit ≤ ks.length then none
  else
    match ks.getLast? with
    | some name => some ((ks.dropLast, name), rest)
    | none => none

/-! ## Values -/

mutual

/-- A value; `depth` levels of nesting are left. -/
def value? : Nat → Nat → Scan Datum
  | 0, _, _ => none
  | fuel + 1, depth, cs =>
    match cs with
    | '[' :: rest =>
      if depth = 0 then none
      else (items? fuel (depth - 1) [] rest).map fun (items, rest) => (.list items, rest)
    | '\x7b' :: rest => do
      if depth = 0 then none
      else
        let (pairs, rest) ←
          match skipSpaces rest with
          | '\x7d' :: rest => some ([], rest)
          | rest => pairs? fuel (depth - 1) [] rest
        let es ← Entries.assignAll [] pairs
        some (.table (toFields es), rest)
    | cs => scalar? cs

/-- The items of an array up to its closing bracket; a comma may follow the last. -/
def items? : Nat → Nat → List Datum → Scan (List Datum)
  | 0, _, _, _ => none
  | fuel + 1, depth, acc, cs =>
    match skipLines false cs with
    | ']' :: rest => some (acc.reverse, rest)
    | cs => do
      let (d, rest) ← value? fuel depth cs
      match skipLines false rest with
      | ',' :: rest => items? fuel depth (d :: acc) rest
      | ']' :: rest => some ((d :: acc).reverse, rest)
      | _ => none

/-- The assignments between braces, up to the closing one, all on one line. -/
def pairs? : Nat → Nat → List Entries.Assignment → Scan (List Entries.Assignment)
  | 0, _, _, _ => none
  | fuel + 1, depth, acc, cs => do
    let (key, rest) ← key? cs
    let rest ← after? '=' rest
    let (d, rest) ← value? fuel depth (skipSpaces rest)
    match skipSpaces rest with
    | ',' :: rest => pairs? fuel depth ((key, d) :: acc) rest
    | '\x7d' :: rest => some (((key, d) :: acc).reverse, rest)
    | _ => none

end

/-! ## Lines -/

/-- A key with its value. -/
def assignment? : Scan Entries.Assignment := fun cs => do
  let (key, rest) ← key? cs
  let rest ← after? '=' rest
  let rest := skipSpaces rest
  let (d, rest) ← value? (2 * rest.length + 2) (limit - 1) rest
  some ((key, d), rest)

def heading? : Scan Heading
  | '[' :: '[' :: cs => do
    let (key, rest) ← key? cs
    let rest ← after? ']' rest
    let rest ← after? ']' rest
    some (⟨true, key.1, key.2⟩, rest)
  | '[' :: cs => do
    let (key, rest) ← key? cs
    let rest ← after? ']' rest
    some (⟨false, key.1, key.2⟩, rest)
  | _ => none

/-- The sections of a text, last one first; `top` holds the assignments before
the first heading, also last one first. -/
def sections? : Nat → List Entries.Assignment → List Section → List Char →
    Option (List Entries.Assignment × List Section)
  | 0, _, _, _ => none
  | fuel + 1, top, done, cs =>
    match skipLines false cs with
    | [] => some (top, done)
    | '[' :: cs => do
      let (h, rest) ← heading? ('[' :: cs)
      let rest ← lineEnd? rest
      sections? fuel top (⟨h, []⟩ :: done) rest
    | cs => do
      let (a, rest) ← assignment? cs
      let rest ← lineEnd? rest
      match done with
      | [] => sections? fuel (a :: top) [] rest
      | s :: done => sections? fuel top ({ s with assignments := a :: s.assignments } :: done) rest

/-- The table a document writes; a byte order mark in front does not count. -/
def parse? (s : String) : Option (List (String × Datum)) := do
  let cs :=
    match s.toList with
    | '\ufeff' :: cs => cs
    | cs => cs
  let (top, sections) ← sections? (cs.length + 1) [] [] cs
  let es ← Entries.assignAll [] top.reverse
  let es ← sections.reverse.foldlM
    (fun es s => Entries.addSection es { s with assignments := s.assignments.reverse }) es
  some (toFields es)

end MetaGraph.Toml
