/-
Integers out of JSON values. An integer field takes a number that is an
integer, or a text in decimal form, and holds a number past the signed 64-bit
range to its bounds where it refuses such a text. A text field writes an
integer with its digits, but one past that range as a round number near it.
-/
import MetaGraph.Proofs.Decimal.Integer
import MetaGraph.Proofs.Decimal.Nearest
import MetaGraph.Proofs.Except
import MetaGraph.Model.Field

namespace MetaGraph

/-! ## The integer of a value -/

/-- The integer that a number is exactly. -/
inductive Json.Exactly : Json → Int → Prop
  | int (n : Int) : Exactly (.int n) n
  | float {x : Binary64} {n : Int} {den : Nat} : x.toRatio? = some (n * den, den) → 0 < den → Exactly (.float x) n

/-- An integer that a value tells: a number is the integer, or a text has a decimal form of it between
blanks. -/
def Json.Tells (v : Json) (n : Int) : Prop :=
  v.Exactly n ∨ ∃ s, v = .text s ∧ Decimal.Form (Text.trim s).toList n

/-- An integer in the signed 64-bit range. -/
def Decimal.IsInt64 (n : Int) : Prop := i64Min ≤ n ∧ n ≤ i64Max

instance (n : Int) : Decidable (Decimal.IsInt64 n) := inferInstanceAs (Decidable (_ ∧ _))

/-- An integer held to the signed 64-bit range. -/
def Decimal.held (n : Int) : Int := max i64Min (min i64Max n)

theorem Decimal.held_eq_self_iff {n : Int} : held n = n ↔ IsInt64 n := by
  unfold held IsInt64 i64Min i64Max
  omega

theorem Decimal.held_of_lt {n : Int} (h : i64Max < n) : held n = i64Max := by
  unfold held
  have : i64Min ≤ i64Max := by decide
  omega

/-- The integers past the signed range that are kept are natural numbers of 64 bits. -/
theorem Decimal.exists_nat_of_not_isInt64 {n : Int} (kept : Json.InRange n) (past : ¬ IsInt64 n) :
    i64Max < n ∧ ∃ k : Nat, n = k ∧ twoTo 63 ≤ k ∧ k < twoTo 64 := by
  obtain ⟨least, most⟩ := kept
  have h : i64Max < n := Int.lt_of_not_ge fun small => past ⟨least, small⟩
  have e63 : twoTo 63 = 9223372036854775808 := rfl
  have e64 : twoTo 64 = 18446744073709551616 := rfl
  refine ⟨h, n.toNat, ?_⟩
  unfold i64Max at h
  omega

theorem Json.Exactly.unique {v : Json} {n n' : Int} (h : v.Exactly n) (h' : v.Exactly n') : n = n' := by
  cases h with
  | int => cases h'; rfl
  | float given positive =>
    cases h' with
    | float given' _ =>
      rw [given] at given'
      obtain ⟨value, rfl⟩ := Prod.mk.inj (Option.some.inj given')
      exact Int.eq_of_mul_eq_mul_right (by omega) value

namespace Field

open Decimal

theorem ofDatum?_int (m : Int) : Scalar.ofDatum? (Json.int m).toDatum =
    some (if IsInt64 m then .int m else .float (Binary64.ofInt m)) := by
  by_cases within : IsInt64 m
  · rw [if_pos within]
    exact if_pos within
  · rw [if_neg within]
    exact if_neg within

theorem int_of_scalar {origin : Origin} {d : Datum} {s : Scalar} (h : Scalar.ofDatum? d = some s) :
    int origin d = s.toInt := by
  simp only [int, scalar, h, bind, Except.bind]

theorem string_of_scalar {origin : Origin} {d : Datum} {s : Scalar} (h : Scalar.ofDatum? d = some s) :
    string origin d = .ok s.toText := by
  simp only [string, scalar, h, Except.map]

/-- The integer of a float is its own, held to the range. -/
theorem toInt_float {x : Binary64} {n : Int} :
    (Scalar.float x).toInt = .ok n ↔ ∃ m, (Json.float x).Exactly m ∧ n = held m := by
  unfold Scalar.toInt
  dsimp only
  constructor
  · intro h
    split at h
    · rename_i whole
      obtain ⟨m, den, given, positive⟩ := Binary64.isWhole_iff.1 whole
      rw [Binary64.truncateWithin_eq given positive] at h
      exact ⟨m, .float given positive, (Except.ok.inj h).symm⟩
    · cases h
  · rintro ⟨m, exact, rfl⟩
    cases exact with
    | float given positive =>
      rw [if_pos (Binary64.isWhole_iff.2 ⟨m, _, given, positive⟩), Binary64.truncateWithin_eq given positive]
      rfl

/-- An integer past the range is held to it too, since the float nearest to it is past the range. -/
theorem int_eq_held {m : Int} (kept : Json.InRange m) : int .json (Json.int m).toDatum = .ok (held m) := by
  rw [int_of_scalar (ofDatum?_int m)]
  split
  · rename_i within
    rw [held_eq_self_iff.2 within]
    rfl
  · rename_i past
    obtain ⟨large, k, rfl, low, high⟩ := exists_nat_of_not_isInt64 kept past
    obtain ⟨n, given, least⟩ := Binary64.toRatio?_ofInt low high
    refine toInt_float.2 ⟨n, .float given Nat.one_pos, ?_⟩
    have larger : i64Max < n := by
      have e63 : twoTo 63 = 9223372036854775808 := rfl
      unfold i64Max
      omega
    rw [held_of_lt large, held_of_lt larger]

theorem toInt_text {s : String} {n : Int} :
    (Scalar.text s).toInt = .ok n ↔ Form (Text.trim s).toList n ∧ IsInt64 n := by
  have read := @integer_eq_ok_iff i64Min i64Max n (by decide) (Text.trim s).toList
  rw [IsInt64, ← read, Scalar.toInt, int64]
  split
  · rename_i given
    rw [given, Except.ok.injEq, Except.ok.injEq]
  · rename_i given
    rw [given]
    exact iff_of_false nofun nofun

/-- What an integer field takes a value for. -/
theorem int_eq_ok_iff {v : Json} (kept : ∀ m, v = .int m → Json.InRange m) (n : Int) :
    int .json v.toDatum = .ok n ↔
      (∃ m, v.Exactly m ∧ n = held m) ∨ ∃ s, v = .text s ∧ Form (Text.trim s).toList n ∧ IsInt64 n := by
  cases v with
  | int m =>
    rw [int_eq_held (kept m rfl)]
    constructor
    · intro h
      exact .inl ⟨m, .int m, (Except.ok.inj h).symm⟩
    · rintro (⟨m', exact, rfl⟩ | ⟨s, other, -⟩)
      · cases exact
        rfl
      · cases other
  | float x =>
    rw [int_of_scalar (s := .float x) rfl, toInt_float]
    simp
  | text s =>
    rw [int_of_scalar (s := .text s) rfl, toInt_text]
    constructor
    · exact fun h => .inr ⟨s, rfl, h⟩
    · rintro (⟨m, exact, -⟩ | ⟨t, same, h⟩)
      · cases exact
      · rw [Json.text.inj same]
        exact h
  | _ =>
    refine iff_of_false nofun ?_
    rintro (⟨m, exact, -⟩ | ⟨s, other, -⟩)
    · cases exact
    · cases other

theorem some_eq_ok_iff {r : Except DecodeError Int} {n : Int} : some <$> r = .ok (some n) ↔ r = .ok n := by
  cases r
  · exact iff_of_false nofun nofun
  · simp [Functor.map, Except.map]

/-- A field that may lack an integer takes the same values for one. -/
theorem optInt_eq_some_iff (v : Json) (n : Int) :
    optInt .json v.toDatum = .ok (some n) ↔ int .json v.toDatum = .ok n := by
  cases v with
  | int m =>
    have read : optInt .json (Json.int m).toDatum = some <$> int .json (Json.int m).toDatum := by
      have given := ofDatum?_int m
      rw [int_of_scalar given]
      rw [Json.toDatum] at given ⊢
      simp only [optInt, Decoder.option, scalar, given]
      split <;> rfl
    rw [read, some_eq_ok_iff]
  | float x => exact some_eq_ok_iff
  | text s =>
    have read : optInt .json (Json.text s).toDatum =
        if Text.trim s = "" then .ok none else some <$> (Scalar.text s).toInt := by
      simp only [Json.toDatum, optInt, Decoder.option, scalar, Scalar.ofDatum?, Except.map, bind, Except.bind]
      rfl
    rw [read, int_of_scalar (s := .text s) rfl]
    split
    · rename_i blank
      refine iff_of_false nofun fun h => ?_
      have form := (toInt_text.1 h).1
      rw [blank] at form
      cases form with
      | plain given _ => exact given rfl
    · exact some_eq_ok_iff
  | _ => exact iff_of_false nofun nofun

/-- A text field writes an integer in the range with its digits, and any other as a round number. -/
theorem string_eq {m : Int} (kept : Json.InRange m) :
    ∃ m', string .json (Json.int m).toDatum = .ok (String.ofList (Json.intText m')) ∧ (m ≤ i64Max → m' = m) ∧
      (i64Max < m → i64Max < m' ∧ 1000 ∣ m' ∧ Binary64.ofInt m' = Binary64.ofInt m) := by
  rw [string_of_scalar (ofDatum?_int m)]
  split
  · rename_i within
    exact ⟨m, rfl, fun _ => rfl, fun past => absurd within.2 (Int.not_le.2 past)⟩
  · rename_i past
    obtain ⟨large, k, rfl, low, high⟩ := exists_nat_of_not_isInt64 kept past
    obtain ⟨k', written, round, near, least⟩ := Binary64.text_ofInt low high
    refine ⟨k', ?_, fun small => absurd small (Int.not_le.2 large), fun _ => ⟨?_, ?_, near⟩⟩
    · rw [Scalar.toText, written, Json.intText, if_neg (by omega), Int.natAbs_natCast]
    · have e63 : twoTo 63 = 9223372036854775808 := rfl
      unfold i64Max
      omega
    · exact_mod_cast round

/-- What a text field makes of an integer past the range is up to the float nearest to it. -/
theorem string_congr {m₁ m₂ : Int} (past₁ : i64Max < m₁) (past₂ : i64Max < m₂)
    (near : Binary64.ofInt m₁ = Binary64.ofInt m₂) :
    string .json (Json.int m₁).toDatum = string .json (Json.int m₂).toDatum := by
  have out {m : Int} (past : i64Max < m) : ¬ IsInt64 m := fun h => Int.not_le.2 past h.2
  rw [string_of_scalar (ofDatum?_int m₁), string_of_scalar (ofDatum?_int m₂), if_neg (out past₁),
    if_neg (out past₂), near]

/-- Two integers have one text if they are the same, or if both are past the range and the same float
is nearest to them. -/
theorem string_eq_iff {m₁ m₂ : Int} (kept₁ : Json.InRange m₁) (kept₂ : Json.InRange m₂) :
    string .json (Json.int m₁).toDatum = string .json (Json.int m₂).toDatum ↔
      m₁ = m₂ ∨ i64Max < m₁ ∧ i64Max < m₂ ∧ Binary64.ofInt m₁ = Binary64.ofInt m₂ := by
  constructor
  · intro same
    obtain ⟨m₁', text₁, within₁, past₁⟩ := string_eq kept₁
    obtain ⟨m₂', text₂, within₂, past₂⟩ := string_eq kept₂
    rw [text₁, text₂] at same
    obtain rfl := intText_inj (String.ofList_injective (Except.ok.inj same))
    rcases Int.lt_or_le i64Max m₁ with large₁ | small₁ <;> rcases Int.lt_or_le i64Max m₂ with large₂ | small₂
    · exact .inr ⟨large₁, large₂, (past₁ large₁).2.2.symm.trans (past₂ large₂).2.2⟩
    · exact absurd ((within₂ small₂) ▸ (past₁ large₁).1) (Int.not_lt.2 small₂)
    · exact absurd ((within₁ small₁) ▸ (past₂ large₂).1) (Int.not_lt.2 small₁)
    · exact .inl ((within₁ small₁).symm.trans (within₂ small₂))
  · rintro (rfl | ⟨past₁, past₂, near⟩)
    · rfl
    · exact string_congr past₁ past₂ near

/-- **Integers out of values.** An integer field takes a number that is an integer and holds it to the
signed 64-bit range, or a text that has a decimal form of an integer in the range between blanks, and
nothing else; so what it decodes is what the value tells if and only if no number past the range is
given. A field that may lack an integer takes the same. A text field writes an integer with its digits,
but one past the range as a round number with the same nearest float; so two integers are written alike
only if they are the same, or are both past the range and have the same nearest float. -/
theorem integers_decoded {v : Json} (kept : ∀ m, v = .int m → Json.InRange m) :
    (∀ n, int .json v.toDatum = .ok n ↔
      (∃ m, v.Exactly m ∧ n = held m) ∨ ∃ s, v = .text s ∧ Form (Text.trim s).toList n ∧ IsInt64 n) ∧
    (∀ n, optInt .json v.toDatum = .ok (some n) ↔ int .json v.toDatum = .ok n) ∧
    ((∀ n, int .json v.toDatum = .ok n → v.Tells n) ↔ ∀ m, v.Exactly m → IsInt64 m) ∧
    ∀ m, v = .int m →
      (∃ m', string .json v.toDatum = .ok (String.ofList (Json.intText m')) ∧ (m ≤ i64Max → m' = m) ∧
        (i64Max < m → i64Max < m' ∧ 1000 ∣ m' ∧ Binary64.ofInt m' = Binary64.ofInt m)) ∧
      ∀ other, Json.InRange other →
        (string .json v.toDatum = string .json (Json.int other).toDatum ↔
          m = other ∨ i64Max < m ∧ i64Max < other ∧ Binary64.ofInt m = Binary64.ofInt other) := by
  have decoded := int_eq_ok_iff kept
  refine ⟨decoded, optInt_eq_some_iff v, ⟨fun told m exact => ?_, fun within n h => ?_⟩, ?_⟩
  · rcases told (held m) ((decoded _).2 (.inl ⟨m, exact, rfl⟩)) with same | ⟨s, rfl, -⟩
    · exact held_eq_self_iff.1 (same.unique exact)
    · cases exact
  · rcases (decoded n).1 h with ⟨m, exact, rfl⟩ | ⟨s, rfl, form, -⟩
    · rw [held_eq_self_iff.2 (within m exact)]
      exact .inl exact
    · exact .inr ⟨s, rfl, form⟩
  · rintro m rfl
    have range := kept m rfl
    exact ⟨string_eq range, fun other range' => string_eq_iff range range'⟩

theorem kept_int {m : Int} (h : Json.InRange m) : ∀ m', Json.int m = .int m' → Json.InRange m' :=
  fun _ same => Json.int.inj same ▸ h

/-- A text with a sign, the integers around the end of the signed range, and the last one of 64 bits,
whose digits are not kept. -/
theorem integers_decoded_limits :
    int .json (Json.text " +7").toDatum = .ok 7 ∧
      optInt .json (Json.int 9223372036854775808).toDatum = .ok (some 9223372036854775807) ∧
      string .json (Json.int 9223372036854775807).toDatum = .ok "9223372036854775807" ∧
      string .json (Json.int 18446744073709551615).toDatum ≠ .ok "18446744073709551615" := by
  refine ⟨?_, ?_, ?_, ?_⟩
  · have trimmed : (Text.trim " +7").toList = ['+', '7'] := by decide +kernel
    have form : Form (Text.trim " +7").toList 7 := by
      rw [trimmed]
      exact .plus (by decide) (List.forall_mem_singleton.2 rfl)
    obtain ⟨decoded, -⟩ := @integers_decoded (.text " +7") nofun
    exact (decoded 7).2 (.inr ⟨_, rfl, form, by decide⟩)
  · obtain ⟨decoded, optional, -⟩ := integers_decoded (kept_int (m := 9223372036854775808) (by decide))
    exact (optional _).2 ((decoded _).2 (.inl ⟨_, .int _, by decide⟩))
  · obtain ⟨-, -, -, texts⟩ := integers_decoded (kept_int (m := 9223372036854775807) (by decide))
    obtain ⟨⟨m, written, same, -⟩, -⟩ := texts _ rfl
    rw [written, same (by decide)]
    exact except_eq_ok_of_toOption (by decide +kernel)
  · obtain ⟨-, -, -, texts⟩ := integers_decoded (kept_int (m := 18446744073709551615) (by decide))
    obtain ⟨⟨m, written, -, past⟩, -⟩ := texts _ rfl
    obtain ⟨-, round, -⟩ := past (by decide)
    rw [written]
    intro same
    have digits : "18446744073709551615" = String.ofList (Json.intText 18446744073709551615) := by
      decide +kernel
    rw [digits] at same
    have exact := intText_inj (String.ofList_injective (Except.ok.inj same))
    omega

/-- Two identifiers past the signed range have one text, and an integer past it is taken for the last
one in it, though a text of it is refused. -/
theorem integers_mistaken :
    string .json (Json.int 18446744073709551615).toDatum = .ok "18446744073709552000" ∧
      string .json (Json.int 18446744073709551614).toDatum = .ok "18446744073709552000" ∧
      int .json (Json.int 9223372036854775808).toDatum = .ok 9223372036854775807 ∧
      (int .json (Json.text "9223372036854775808").toDatum).toOption = none :=
  ⟨except_eq_ok_of_toOption (by decide +kernel), except_eq_ok_of_toOption (by decide +kernel),
    except_eq_ok_of_toOption (by decide +kernel), by decide +kernel⟩

end Field

end MetaGraph
