/-
Sets of characters given by tables. A table is a list of closed ranges of
code points in increasing order; where a script alternates between the two
cases, a range also carries its step.
-/

namespace MetaGraph.Text

/-- Whether `n` lies in one of the closed ranges. -/
def inRanges (ranges : List (Nat × Nat)) (n : Nat) : Bool :=
  ranges.any fun r => r.1 ≤ n && n ≤ r.2

/-- Whether `n` is met when each range is walked from its start by its step. -/
def inRuns (runs : List (Nat × Nat × Nat)) (n : Nat) : Bool :=
  runs.any fun (lo, hi, step) => lo ≤ n && n ≤ hi && (n - lo) % step == 0

end MetaGraph.Text
