/-
JSON values. A number is an integer or a binary64 number, and stays what it
is: `5` and `5.0` are different values. An object keeps its members in the
order of their names.
-/
import MetaGraph.Decimal.Binary64
import MetaGraph.KeyMap

namespace MetaGraph

/-- A JSON value. -/
inductive Json where
  | null
  | bool (b : Bool)
  | int (n : Int)
  | float (x : Binary64)
  | text (s : String)
  | array (items : List Json)
  | object (members : List (String × Json))
deriving Repr, Inhabited

/-- A record: named values, in the order of their names. -/
abbrev Record := KeyMap Json

namespace Json

/-- The integers that JSON text keeps exact. -/
def InRange (n : Int) : Prop := -9223372036854775808 ≤ n ∧ n ≤ 18446744073709551615

instance (n : Int) : Decidable (InRange n) := inferInstanceAs (Decidable (_ ∧ _))

/-- A JSON value of a finite number; infinities and NaN have none but null. -/
def ofBinary64 (x : Binary64) : Json := if x.isFinite then .float x else .null

/-- Null for nothing. -/
def ofOption {α : Type} (f : α → Json) : Option α → Json
  | some a => f a
  | none => null

def ofNat (n : Nat) : Json := int n

/-- A list of texts. -/
def texts (items : List String) : Json := array (items.map text)

def isNull : Json → Bool
  | null => true
  | _ => false

def record? : Json → Option Record
  | object members => some members
  | _ => none

mutual

/-- Whether two values are the same, floats compared by their bits. -/
def same : Json → Json → Bool
  | null, null => true
  | bool a, bool b => a == b
  | int a, int b => a == b
  | float x, float y => x == y
  | text s, text t => s == t
  | array xs, array ys => sameItems xs ys
  | object xs, object ys => sameMembers xs ys
  | _, _ => false

def sameItems : List Json → List Json → Bool
  | [], [] => true
  | x :: xs, y :: ys => same x y && sameItems xs ys
  | _, _ => false

def sameMembers : List (String × Json) → List (String × Json) → Bool
  | [], [] => true
  | (k, x) :: xs, (l, y) :: ys => k == l && same x y && sameMembers xs ys
  | _, _ => false

end

mutual

theorem same_iff : ∀ a b : Json, same a b = true ↔ a = b
  | null, b => by cases b <;> simp [same]
  | bool _, b => by cases b <;> simp [same]
  | int _, b => by cases b <;> simp [same]
  | float _, b => by cases b <;> simp [same]
  | text _, b => by cases b <;> simp [same]
  | array xs, b => by
    cases b <;> simp only [same, reduceCtorEq, Bool.false_eq_true, array.injEq]
    exact sameItems_iff xs _
  | object xs, b => by
    cases b <;> simp only [same, reduceCtorEq, Bool.false_eq_true, object.injEq]
    exact sameMembers_iff xs _

theorem sameItems_iff : ∀ xs ys : List Json, sameItems xs ys = true ↔ xs = ys
  | [], ys => by cases ys <;> simp [sameItems]
  | x :: xs, [] => by simp [sameItems]
  | x :: xs, y :: ys => by simp [sameItems, same_iff x y, sameItems_iff xs ys]

theorem sameMembers_iff : ∀ xs ys : List (String × Json), sameMembers xs ys = true ↔ xs = ys
  | [], ys => by cases ys <;> simp [sameMembers]
  | (k, x) :: xs, [] => by simp [sameMembers]
  | (k, x) :: xs, (l, y) :: ys => by
    simp [sameMembers, same_iff x y, sameMembers_iff xs ys]

end

instance : DecidableEq Json := fun a b => decidable_of_iff _ (same_iff a b)

end Json

end MetaGraph
