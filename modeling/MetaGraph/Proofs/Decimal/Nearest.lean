/-
Whole numbers among the binary64 numbers. A natural number of more than 53
bits is rounded to a multiple of a power of two, and all decimals that the
rounding interval of a number holds are rounded to it. So an integer past the
signed 64-bit range is written as a round number, which has the same nearest
number.
-/
import MetaGraph.Decimal.Shortest
import Mathlib.Tactic.Ring

namespace MetaGraph.Binary64

theorem twoTo_pos (n : Nat) : 0 < twoTo n := Nat.pow_pos (by decide)

theorem tenTo_pos (n : Nat) : 0 < tenTo n := Nat.pow_pos (by decide)

theorem twoTo_succ (n : Nat) : twoTo (n + 1) = 2 * twoTo n := Nat.pow_succ'

theorem tenTo_succ (n : Nat) : tenTo (n + 1) = tenTo n * 10 := Nat.pow_succ 10 n

theorem twoTo_11 : twoTo 11 = 2048 := rfl

theorem twoTo_52 : twoTo 52 = 4503599627370496 := rfl

theorem twoTo_53 : twoTo 53 = 9007199254740992 := rfl

theorem twoTo_63 : twoTo 63 = 9223372036854775808 := rfl

/-! ## Quotients -/

/-- A natural number that no other one is nearer to a quotient than; of two it is the even one. -/
structure IsNearest (num den r : Nat) : Prop where
  low : 2 * (r * den) ≤ 2 * num + den
  high : 2 * num ≤ 2 * (r * den) + den
  even : 2 * (r * den) = 2 * num + den ∨ 2 * num = 2 * (r * den) + den → r % 2 = 0

theorem isNearest_roundQuotient {num den : Nat} (hd : 0 < den) : IsNearest num den (roundQuotient num den) := by
  have split : num / den * den + num % den = num := Nat.div_add_mod' num den
  have rest : num % den < den := Nat.mod_lt num hd
  have next : (num / den + 1) * den = num / den * den + den := Nat.succ_mul _ _
  unfold roundQuotient
  dsimp only
  split
  · exact ⟨by omega, by omega, by omega⟩
  · exact ⟨by omega, by omega, by omega⟩

theorem IsNearest.unique {num den r r' : Nat} (hd : 0 < den) (h : IsNearest num den r) (h' : IsNearest num den r') :
    r = r' := by
  -- Two different ones would be one apart, and the quotient would lie in the middle: both were even.
  have apart {a b : Nat} (ha : IsNearest num den a) (hb : IsNearest num den b) : ¬ a < b := by
    intro less
    have step : (a + 1) * den ≤ b * den := Nat.mul_le_mul_right den less
    have next : (a + 1) * den = a * den + den := Nat.succ_mul _ _
    have := ha.high
    have := hb.low
    have evenA := ha.even (.inr (by omega))
    have evenB := hb.even (.inl (by omega))
    have two : (a + 2) * den ≤ b * den := Nat.mul_le_mul_right den (by omega)
    have far : (a + 2) * den = a * den + den + den := by rw [Nat.succ_mul, Nat.succ_mul]
    omega
  exact Nat.le_antisymm (Nat.le_of_not_lt (apart h' h)) (Nat.le_of_not_lt (apart h h'))

theorem IsNearest.roundQuotient_eq {num den r : Nat} (hd : 0 < den) (h : IsNearest num den r) :
    roundQuotient num den = r :=
  (isNearest_roundQuotient hd).unique hd h

/-! ## Integers -/

section Integers

variable {x : Binary64}

theorem ratio_den_pos (m : Nat) (q : Int) : 0 < (ratio m q).2 := by
  unfold ratio
  split
  · exact Nat.one_pos
  · exact twoTo_pos _

/-- A whole number is an integer over one, whatever denominator it comes with. -/
theorem isWhole_iff : x.isWhole = true ↔ ∃ (n : Int) (den : Nat), x.toRatio? = some (n * den, den) ∧ 0 < den := by
  unfold isWhole
  constructor
  · intro whole
    split at whole
    · rename_i num den given
      obtain ⟨n, rfl⟩ := Int.dvd_of_emod_eq_zero (beq_iff_eq.1 whole)
      refine ⟨n, den, by rw [given, Int.mul_comm], ?_⟩
      unfold toRatio? at given
      split at given
      · rename_i m q _
        rw [← (Prod.mk.inj (Option.some.inj given)).2]
        exact ratio_den_pos m q
      · cases given
    · cases whole
  · rintro ⟨n, den, given, -⟩
    simp [given]

/-- The integer part of a whole number is the number itself. -/
theorem truncateWithin_eq {lo hi n : Int} {den : Nat} (h : x.toRatio? = some (n * den, den)) (hd : 0 < den) :
    x.truncateWithin lo hi = max lo (Min.min hi n) := by
  unfold toRatio? at h
  unfold truncateWithin
  split at h
  · rename_i negative m q view
    rw [view]
    dsimp only at h ⊢
    generalize ratio m q = r at h ⊢
    obtain ⟨value, same⟩ := Prod.mk.inj (Option.some.inj h)
    rw [same]
    have part : (if negative then -((r.1 / den : Nat) : Int) else (r.1 / den : Nat)) = n := by
      have positive : (den : Int) ≠ 0 := by omega
      cases negative with
      | false =>
        rw [if_neg Bool.false_ne_true] at value ⊢
        rw [Int.natCast_ediv, value, Int.mul_ediv_cancel n positive]
      | true =>
        rw [if_pos rfl] at value ⊢
        rw [Int.natCast_ediv, show (r.1 : Int) = -n * den by rw [Int.neg_mul]; omega,
          Int.mul_ediv_cancel _ positive, Int.neg_neg]
    rw [part]
  · cases h

end Integers

/-! ## Whole numbers -/

/-- The factors of the whole binary64 numbers of at least `2^52` times a power of two. -/
def IsFactor (m : Nat) : Prop := twoTo 52 ≤ m ∧ m < twoTo 53

section Whole

variable {m q k d : Nat}

/-- The bits of a factor and an exponent. -/
theorem pack_eq (hm : twoTo 52 ≤ m) (hM : m ≤ twoTo 53) (hq : q ≤ 970) :
    pack false m q = signed false ((q + 1075) * twoTo 52 + (m - twoTo 52)) := by
  have exponent : ((q : Int) + 1075).toNat = q + 1075 := by omega
  rw [pack, if_neg (Nat.not_lt.2 hm)]
  dsimp only
  rw [twoTo_52, twoTo_53] at *
  rw [exponent, if_neg (by omega)]

theorem view_pack (h : IsFactor m) (hq : q ≤ 970) : (pack false m q).view = .finite false m q := by
  obtain ⟨hm, hM⟩ := h
  rw [pack_eq hm (Nat.le_of_lt hM) hq, signed, view, twoTo_11, twoTo_63]
  rw [twoTo_52, twoTo_53] at *
  have bits : (UInt64.ofNat ((q + 1075) * 4503599627370496 + (m - 4503599627370496))).toNat =
      (q + 1075) * 4503599627370496 + (m - 4503599627370496) := by
    refine UInt64.toNat_ofNat_of_lt' ?_
    have : UInt64.size = 18446744073709551616 := rfl
    omega
  have exponent : ((q + 1075) * 4503599627370496 + (m - 4503599627370496)) / 4503599627370496 % 2048 =
      q + 1075 := by omega
  have fraction : ((q + 1075) * 4503599627370496 + (m - 4503599627370496)) % 4503599627370496 =
      m - 4503599627370496 := by omega
  have position : ((q + 1075 : Nat) : Int) - 1075 = q := by omega
  simp only [Bool.false_eq_true, if_false, bits, exponent, fraction, position, Nat.sub_add_cancel hm]
  rw [if_neg (by omega), if_neg (by omega), decide_eq_false (by omega)]

/-- Past the largest factor comes the smallest one at the next exponent. -/
theorem pack_twoTo (hq : q ≤ 969) : pack false (twoTo 53) q = pack false (twoTo 52) (q + 1 : Nat) := by
  have step : twoTo 52 ≤ twoTo 53 := by decide
  have same : (q + 1075) * twoTo 52 + (twoTo 53 - twoTo 52) =
      (q + 1 + 1075) * twoTo 52 + (twoTo 52 - twoTo 52) := by
    rw [twoTo_52, twoTo_53]
    omega
  rw [pack_eq step (Nat.le_refl _) (by omega), pack_eq (Nat.le_refl _) step (by omega), same]

/-- A natural number of `q + 53` bits is rounded to a multiple of `2^q`. -/
theorem ofInt_eq_pack {n : Nat} (low : twoTo 52 * twoTo q ≤ n) (high : n < twoTo 53 * twoTo q) :
    ofInt n = pack false (roundQuotient n (twoTo q)) q := by
  have positive : n ≠ 0 := by
    have := Nat.mul_pos (twoTo_pos 52) (twoTo_pos q)
    omega
  have log : Nat.log2 n = 52 + q := by
    refine (Nat.log2_eq_iff positive).2 ⟨?_, ?_⟩
    · rw [Nat.pow_add]
      exact low
    · rw [Nat.add_right_comm, Nat.pow_add]
      exact high
  have guess : max (((52 + q : Nat) : Int) - (Nat.log2 1 : Nat) - 52) (-1074) = q := by
    have : Nat.log2 1 = 0 := rfl
    omega
  have scaled : overPowerOfTwo n 1 q = (n, twoTo q) := by
    rw [overPowerOfTwo, if_pos (Int.natCast_nonneg q), Int.toNat_natCast, Nat.one_mul]
  rw [ofInt, decide_eq_false (by omega), Int.natAbs_natCast, ofRatio, if_neg positive, log, guess]
  simp only [scaled]
  rw [if_neg (by omega), scaled]

@[simp] theorem ratio_natCast (m q : Nat) : ratio m q = (m * twoTo q, 1) := by
  rw [ratio, if_pos (Int.natCast_nonneg q), Int.toNat_natCast]

@[simp] theorem powerOfTen_natCast (d k : Nat) : powerOfTen d k = (d * tenTo k, 1) := by
  rw [powerOfTen, if_pos (Int.natCast_nonneg k), Int.toNat_natCast]

/-- The lower end of the interval of decimals that are rounded to `m` in units of `4 · unit`. Below a
power of two the spacing is halved. -/
def lowerEnd (m unit : Nat) : Nat := if m = twoTo 52 then (4 * m - 1) * unit else (4 * m - 2) * unit

theorem le_lowerEnd (m unit : Nat) : 4 * (m * unit) ≤ lowerEnd m unit + 2 * unit := by
  unfold lowerEnd
  split <;> rw [Nat.sub_mul, Nat.mul_assoc] <;> omega

theorem lowerEnd_lt {unit : Nat} (hm : 0 < m) (hu : 0 < unit) : lowerEnd m unit < 4 * (m * unit) := by
  have positive := Nat.mul_pos hm hu
  unfold lowerEnd
  split <;> rw [Nat.sub_mul, Nat.mul_assoc] <;> omega

/-- The ends of the interval belong to it for an even factor. -/
theorem roundsTo_iff : roundsTo m (q + 2 : Nat) d k = true ↔
    if m % 2 = 0 then lowerEnd m (twoTo q) ≤ d * tenTo k ∧ d * tenTo k ≤ (4 * m + 2) * twoTo q
    else lowerEnd m (twoTo q) < d * tenTo k ∧ d * tenTo k < (4 * m + 2) * twoTo q := by
  have one : ((q + 2 : Nat) : Int) - 1 = (q + 1 : Nat) := by omega
  have two : ((q + 2 : Nat) : Int) - 2 = q := by omega
  have narrow : (m = twoTo 52 ∧ -1074 < ((q + 2 : Nat) : Int)) ↔ m = twoTo 52 :=
    and_iff_left (by omega)
  have half (a : Nat) : a * twoTo (q + 1) = 2 * a * twoTo q := by rw [twoTo_succ]; ring
  have below : 2 * (2 * m - 1) = 4 * m - 2 := by omega
  have above : 2 * (2 * m + 1) = 4 * m + 2 := by omega
  have low : (if m = twoTo 52 then ((4 * m - 1) * twoTo q, 1) else ((4 * m - 2) * twoTo q, 1)) =
      (lowerEnd m (twoTo q), 1) := by
    unfold lowerEnd
    split <;> rfl
  simp only [roundsTo, one, two, narrow, ratio_natCast, powerOfTen_natCast, half, below, above, low, Nat.mul_one]
  split <;> simp

/-- The whole decimals in the interval of a number are rounded to it. -/
theorem ofInt_of_roundsTo (h : IsFactor m) (hq : q ≤ 968) (hits : roundsTo m (q + 2 : Nat) d k = true) :
    ofInt (d * tenTo k : Nat) = pack false m (q + 2 : Nat) := by
  obtain ⟨hm, hM⟩ := h
  rw [roundsTo_iff] at hits
  generalize d * tenTo k = n at *
  have positive := twoTo_pos q
  have half : twoTo (q + 1) = 2 * twoTo q := twoTo_succ q
  have whole : twoTo (q + 2) = 4 * twoTo q := by rw [twoTo_succ, half]; ring
  have value : m * (4 * twoTo q) = 4 * (m * twoTo q) := Nat.mul_left_comm ..
  have high : (4 * m + 2) * twoTo q = 4 * (m * twoTo q) + 2 * twoTo q := by ring
  have first : twoTo 52 * twoTo q ≤ m * twoTo q := Nat.mul_le_mul_right _ hm
  have last : m * twoTo q + twoTo q ≤ twoTo 53 * twoTo q := by
    rw [← Nat.succ_mul]
    exact Nat.mul_le_mul_right _ hM
  by_cases smallest : m = twoTo 52 ∧ n < twoTo 52 * twoTo (q + 2)
  · -- The decimals below a power of two have the spacing of the exponent below.
    obtain ⟨rfl, small⟩ := smallest
    have low : lowerEnd (twoTo 52) (twoTo q) ≤ n := by split at hits <;> omega
    rw [lowerEnd, if_pos rfl] at low
    have nearest : IsNearest n (twoTo (q + 1)) (twoTo 53) := by
      rw [twoTo_52, twoTo_53] at *
      exact ⟨by omega, by omega, by omega⟩
    rw [ofInt_eq_pack (q := q + 1) (by rw [twoTo_52] at *; omega) (by rw [twoTo_52, twoTo_53] at *; omega),
      nearest.roundQuotient_eq (twoTo_pos _), pack_twoTo (by omega)]
  · have low := le_lowerEnd m (twoTo q)
    have large : twoTo 52 * twoTo (q + 2) ≤ n := by
      by_contra small
      have other : m ≠ twoTo 52 := fun e => smallest ⟨e, by omega⟩
      have next : (twoTo 52 + 1) * twoTo q ≤ m * twoTo q :=
        Nat.mul_le_mul_right _ (Nat.lt_of_le_of_ne hm other.symm)
      rw [Nat.succ_mul] at next
      rw [twoTo_52] at *
      split at hits <;> omega
    have nearest : IsNearest n (twoTo (q + 2)) m := by
      rw [whole]
      split at hits
      · exact ⟨by omega, by omega, by omega⟩
      · exact ⟨by omega, by omega, by omega⟩
    rw [ofInt_eq_pack large (by rw [twoTo_53] at *; split at hits <;> omega), nearest.roundQuotient_eq (twoTo_pos _)]

/-- The binary64 numbers that numbers of 64 bits are rounded to. -/
theorem ofInt_of_bits {n : Nat} (low : twoTo 63 ≤ n) (high : n < twoTo 64) :
    ∃ m q, IsFactor m ∧ ofInt n = pack false m (q + 2 : Nat) ∧ (q = 9 ∨ q = 10) ∧
      twoTo 63 ≤ m * twoTo (q + 2) ∧ m * twoTo (q + 2) ≤ twoTo 64 := by
  have e64 : twoTo 64 = 18446744073709551616 := rfl
  have near := @isNearest_roundQuotient n _ (twoTo_pos 11)
  have rounded := ofInt_eq_pack (q := 11) (n := n) (by rw [twoTo_52, twoTo_11]; rw [twoTo_63] at low; omega)
    (by rw [twoTo_53, twoTo_11]; omega)
  generalize roundQuotient n (twoTo 11) = r at *
  obtain ⟨below, above, -⟩ := near
  rw [twoTo_11] at below above
  rw [twoTo_63] at *
  by_cases past : r < twoTo 53
  · refine ⟨r, 9, ⟨?_, past⟩, rounded, .inl rfl, ?_, ?_⟩
    · rw [twoTo_52]
      omega
    · rw [twoTo_11]
      omega
    · rw [twoTo_11]
      rw [twoTo_53] at past
      omega
  · have last : r = twoTo 53 := by
      rw [twoTo_53] at *
      omega
    rw [last, pack_twoTo (by decide)] at rounded
    exact ⟨twoTo 52, 10, ⟨Nat.le_refl _, by decide⟩, rounded, .inr rfl, by decide, by decide⟩

/-- The number nearest to a number of 64 bits is an integer past the signed range. -/
theorem toRatio?_ofInt {n : Nat} (low : twoTo 63 ≤ n) (high : n < twoTo 64) :
    ∃ n' : Nat, (ofInt n).toRatio? = some ((n' : Int) * (1 : Nat), 1) ∧ twoTo 63 ≤ n' := by
  obtain ⟨m, q, factor, rounded, exponent, least, -⟩ := ofInt_of_bits low high
  refine ⟨m * twoTo (q + 2), ?_, least⟩
  rw [rounded, toRatio?, view_pack factor (by omega)]
  simp only [ratio_natCast, Bool.false_eq_true, if_false, Nat.cast_one, Int.mul_one]

end Whole

/-! ## Decimals -/

section Decimals

variable {m q k d : Nat}

theorem roundsTo_of_gridHit {q k : Int} (h : gridHit m q k = some d) : roundsTo m q d k = true := by
  unfold gridHit at h
  dsimp only at h
  split at h
  · rename_i below above
    repeat' split at h
    all_goals
      cases h
      assumption
  · cases h
    assumption
  · cases h
    assumption
  · cases h

/-- Where the interval of a number is wider than the unit of a grid, the grid has a hit. -/
theorem isSome_gridHit (hm : 0 < m) (fine : tenTo k < 2 * twoTo q) : (gridHit m (q + 2 : Nat) k).isSome := by
  have hit : roundsTo m (q + 2 : Nat) (m * twoTo (q + 2) / tenTo k + 1) k = true := by
    have wide : twoTo (q + 2) = 4 * twoTo q := by rw [twoTo_succ, twoTo_succ]; ring
    have value : m * (4 * twoTo q) = 4 * (m * twoTo q) := Nat.mul_left_comm ..
    have high : (4 * m + 2) * twoTo q = 4 * (m * twoTo q) + 2 * twoTo q := by ring
    have low := lowerEnd_lt hm (twoTo_pos q)
    have split := Nat.div_add_mod' (m * twoTo (q + 2)) (tenTo k)
    have rest := Nat.mod_lt (m * twoTo (q + 2)) (tenTo_pos k)
    rw [roundsTo_iff, Nat.succ_mul]
    rw [wide] at split rest ⊢
    split <;> omega
  unfold gridHit
  simp only [ratio_natCast, powerOfTen_natCast, Nat.mul_one, Nat.one_mul, hit]
  split
  · repeat' split
    all_goals rfl
  · rfl
  · rfl
  · contradiction

/-- A grid with a hit is not passed by. -/
theorem shortestFrom_eq {q lead k₀ : Int} (hit : (gridHit m q k₀).isSome) {fuel n : Nat} (start : k₀ ≤ lead - n + 1)
    (enough : lead - n + 1 < k₀ + fuel) :
    ∃ k d, k₀ ≤ k ∧ gridHit m q k = some d ∧ shortestFrom m q lead fuel n = dropZeros 20 d k := by
  induction fuel generalizing n with
  | zero => omega
  | succ fuel ih =>
    unfold shortestFrom
    cases found : gridHit m q (lead - n + 1) with
    | some d => exact ⟨_, d, start, found, by simp only [found]⟩
    | none =>
      have other : k₀ ≠ lead - n + 1 := by
        rintro rfl
        rw [found] at hit
        cases hit
      simp only [found]
      exact @ih (n + 1) (by omega) (by omega)

theorem dropZeros_eq (fuel d : Nat) (k : Int) :
    ∃ z : Nat, (dropZeros fuel d k).2 = k + z ∧ d = (dropZeros fuel d k).1 * tenTo z := by
  induction fuel generalizing d k with
  | zero => exact ⟨0, (Int.add_zero k).symm, (Nat.mul_one d).symm⟩
  | succ fuel ih =>
    unfold dropZeros
    split
    · rename_i round
      obtain ⟨z, exponent, digits⟩ := ih (d / 10) (k + 1)
      refine ⟨z + 1, by rw [exponent]; omega, ?_⟩
      rw [tenTo_succ, ← Nat.mul_assoc, ← digits, Nat.div_mul_cancel (Nat.dvd_of_mod_eq_zero round.1)]
    · exact ⟨0, (Int.add_zero k).symm, (Nat.mul_one d).symm⟩

/-- The shortest decimal of a whole number is one that is rounded to it, and has no more digits than
a grid with a hit asks for. -/
theorem shortest_eq (h : IsFactor m) {k₀ : Nat} (hit : (gridHit m (q + 2 : Nat) k₀).isSome)
    (start : k₀ < (Nat.toDigits 10 (m * twoTo (q + 2))).length)
    (enough : (Nat.toDigits 10 (m * twoTo (q + 2))).length ≤ k₀ + 17) :
    ∃ d k : Nat, shortest m (q + 2 : Nat) = (d, (k : Int)) ∧ k₀ ≤ k ∧ roundsTo m (q + 2 : Nat) d k = true := by
  have positive : 1 ≤ m * twoTo (q + 2) := Nat.mul_pos (Nat.lt_of_lt_of_le (twoTo_pos 52) h.1) (twoTo_pos _)
  have lead : leadingExponent (m * twoTo (q + 2)) 1 = ((Nat.toDigits 10 (m * twoTo (q + 2))).length : Int) - 1 := by
    rw [leadingExponent, if_pos positive, Nat.div_one]
  obtain ⟨k, d, later, found, taken⟩ :=
    @shortestFrom_eq _ _ (leadingExponent (m * twoTo (q + 2)) 1) _ hit 17 1 (by omega) (by omega)
  obtain ⟨z, exponent, digits⟩ := dropZeros_eq 20 d k
  obtain ⟨k, rfl⟩ := Int.eq_ofNat_of_zero_le (show 0 ≤ k by omega)
  have rounds := roundsTo_of_gridHit found
  refine ⟨(dropZeros 20 d k).1, k + z, ?_, by omega, ?_⟩
  · rw [shortest, ratio_natCast]
    dsimp only
    rw [taken]
    exact Prod.ext rfl exponent
  · have same : (dropZeros 20 d k).1 * tenTo (k + z) = d * tenTo k := by
      have sum : tenTo (k + z) = tenTo k * tenTo z := Nat.pow_add 10 k z
      rw [sum, Nat.mul_left_comm, ← digits, Nat.mul_comm]
    rw [roundsTo_iff, same, ← roundsTo_iff]
    exact rounds

theorem toDigits_mul_tenTo (hd : d ≠ 0) (k : Nat) :
    Nat.toDigits 10 (d * tenTo k) = Nat.toDigits 10 d ++ List.replicate k '0' := by
  induction k with
  | zero => rw [List.replicate_zero, List.append_nil]; exact congrArg _ (Nat.mul_one d)
  | succ k ih =>
    have positive : 0 < d * tenTo k := Nat.mul_pos (Nat.pos_of_ne_zero hd) (tenTo_pos k)
    have last := Nat.toDigits_append_toDigits (b := 10) (d := 0) (by decide) positive (by decide)
    rw [tenTo_succ, ← Nat.mul_assoc, Nat.mul_comm _ 10, ← Nat.add_zero (10 * _), ← last, ih,
      List.append_assoc, List.replicate_succ']
    rfl

/-- Where the exponent of the shortest decimal is not negative, the text of a number is that of a
whole number. -/
theorem text_plain {x : Binary64} (h : x.view = .finite false m q) (hm : m ≠ 0)
    (hs : shortest m q = (d, (k : Int))) (hd : d ≠ 0) :
    x.text .plain = String.ofList (Nat.toDigits 10 (d * tenTo k)) := by
  have given := Nat.length_toDigits_pos (b := 10) (n := d)
  have written : Layout.plain.magnitude d k = Nat.toDigits 10 d ++ List.replicate k '0' := by
    have digits : (((Nat.toDigits 10 d).length : Int) + k).toNat = (Nat.toDigits 10 d).length + k := by omega
    simp only [Layout.magnitude, Layout.plain, Layout.writtenOut, digits]
    rw [if_neg (by omega), if_pos (by omega), Nat.add_sub_cancel_left]
    exact List.append_nil _
  simp only [text, h, hs, if_neg hm, written, toDigits_mul_tenTo hd]
  rfl

/-- The number nearest to a number of 64 bits is written as a round number to which it is nearest too. -/
theorem text_ofInt {n : Nat} (low : twoTo 63 ≤ n) (high : n < twoTo 64) :
    ∃ n' : Nat, (ofInt n).text .plain = String.ofList (Nat.toDigits 10 n') ∧ 1000 ∣ n' ∧
      ofInt n' = ofInt n ∧ twoTo 63 ≤ n' := by
  obtain ⟨m, q, factor, rounded, exponent, least, most⟩ := ofInt_of_bits low high
  have e64 : twoTo 64 = 18446744073709551616 := rfl
  have hm : 0 < m := Nat.lt_of_lt_of_le (twoTo_pos 52) factor.1
  have fine : tenTo 3 < 2 * twoTo q := by rcases exponent with rfl | rfl <;> decide
  -- The numbers have 19 or 20 digits, so that grids of 16 or 17 digits have the unit 1000.
  have long : 18 < (Nat.toDigits 10 (m * twoTo (q + 2))).length := by
    refine Nat.lt_of_not_le fun few => ?_
    have bounded := (Nat.length_toDigits_le_iff (by decide) (by decide)).1 few
    rw [twoTo_63] at least
    omega
  have short : (Nat.toDigits 10 (m * twoTo (q + 2))).length ≤ 20 :=
    (Nat.length_toDigits_le_iff (by decide) (by decide)).2 (by omega)
  obtain ⟨d, k, shortest, later, hits⟩ :=
    shortest_eq factor (isSome_gridHit hm fine) (by omega) (by omega)
  have back := ofInt_of_roundsTo (q := q) factor (by omega) hits
  have round : 1000 ∣ d * tenTo k := Nat.dvd_mul_left_of_dvd (Nat.pow_dvd_pow 10 later) d
  have large : twoTo 63 ≤ d * tenTo k := by
    have inside : lowerEnd m (twoTo q) ≤ d * tenTo k := by
      rw [roundsTo_iff] at hits
      split at hits <;> omega
    have wide : 4 * (m * twoTo q) = m * twoTo (q + 2) := by rw [twoTo_succ, twoTo_succ]; ring
    -- The interval begins at most 512 below, and there is no round number in between.
    have near : twoTo 63 ≤ lowerEnd m (twoTo q) + 512 := by
      obtain ⟨e52, above⟩ := factor
      rw [twoTo_63]
      rw [twoTo_52] at e52
      rcases exponent with rfl | rfl
      · have e9 : twoTo 9 = 512 := rfl
        rw [lowerEnd, e9, twoTo_52]
        split <;> omega
      · have e10 : twoTo 10 = 1024 := rfl
        rw [lowerEnd, e10, twoTo_52]
        split <;> omega
    rw [twoTo_63] at *
    omega
  refine ⟨d * tenTo k, ?_, round, by rw [back, rounded], large⟩
  rw [rounded]
  refine text_plain (view_pack factor (by omega)) (Nat.ne_of_gt hm) shortest ?_
  rintro rfl
  rw [Nat.zero_mul] at large
  exact absurd large (by decide)

end Decimals

end MetaGraph.Binary64
