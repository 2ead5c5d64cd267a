/-
Rows out of a list of values: the values of each row one after the other, or,
where they come column by column, every value at its place in each column.
-/

namespace MetaGraph

/-- Why values cannot be divided into rows. -/
inductive RowFault where
  | noFields
  | uneven (values fields : Nat)
deriving DecidableEq, Repr

def RowFault.message : RowFault → String
  | noFields => "no output field names"
  | uneven values fields => s!"{values} matched values cannot be split across {fields} fields"

namespace Rows

variable {α : Type}

/-- The first `rows` runs of `width` values. -/
def runs (width : Nat) : Nat → List α → List (List α)
  | 0, _ => []
  | rows + 1, values => values.take width :: runs width rows (values.drop width)

/-- The values at the places `start`, `start + stride` and so on, `width` of them. -/
def strided (values : List α) (stride : Nat) : Nat → Nat → List α
  | 0, _ => []
  | width + 1, start => values[start]?.toList ++ strided values stride width (start + stride)

/-- The values in rows of `width`; `byColumn` tells whether they come column by column. -/
def divide (values : List α) (width : Nat) (byColumn : Bool) : Except RowFault (List (List α)) :=
  if width = 0 then .error .noFields
  else if values.length % width ≠ 0 then .error (.uneven values.length width)
  else
    let rows := values.length / width
    if byColumn then .ok ((List.range rows).map fun i => strided values rows width i)
    else .ok (runs width rows values)

end Rows

end MetaGraph
