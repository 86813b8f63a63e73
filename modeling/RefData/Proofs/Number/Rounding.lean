import Mathlib.Algebra.Order.Field.Basic
import Mathlib.Algebra.Order.Field.Rat
import RefData.Proofs.Number
set_option autoImplicit false

namespace RefData.Binary64

variable {neg : Bool} {num den : Nat} {x y : Binary64} {n : Int}

theorem distance_divRoundEven_le (positive : 0 < den) (num k : Nat) :
    ((divRoundEven num den * den : Nat) - num : Int).natAbs ≤
      ((k * den : Nat) - num : Int).natAbs := by
  have whole := Nat.div_add_mod' num den
  have less := Nat.mod_lt num positive
  unfold divRoundEven
  dsimp only
  generalize num / den = q at *
  generalize num % den = r at *
  have next : (q + 1) * den = q * den + den := Nat.succ_mul q den
  have sides : k * den ≤ q * den ∨ q * den + den ≤ k * den := by
    rcases Nat.lt_or_ge q k with above | below
    · exact .inr (next ▸ Nat.mul_le_mul_right den above)
    · exact .inl (Nat.mul_le_mul_right den below)
  split
  · omega
  · split
    · rw [next]
      omega
    · rcases Nat.mod_two_eq_zero_or_one q with even | odd
      · rw [even, Nat.add_zero]
        omega
      · rw [odd, next]
        omega

-- A magnitude lies on the grid of a power of two, unless it is too small to need one so coarse.
theorem magnitude_on_grid (y : Binary64) (p : Nat) :
    (∃ k, y.magnitude = k * Nat.pow 2 p) ∨
      p ≠ 0 ∧ y.magnitude < 0x10000000000000 * Nat.pow 2 p := by
  rcases Nat.lt_or_ge y.exp p with finer | coarser
  · have short : y.magnitude < 2 ^ 53 * 2 ^ y.exp :=
      (Nat.mul_lt_mul_right (two_pow_positive y.exp)).2 y.man_lt
    have covered : 2 ^ 53 * 2 ^ y.exp ≤ 2 ^ 52 * 2 ^ p := by
      rw [← Nat.pow_add, ← Nat.pow_add]
      exact Nat.pow_le_pow_right (by decide) (by omega)
    exact .inr ⟨by omega, short.trans_le covered⟩
  · have parts : Nat.pow 2 (y.exp - p) * Nat.pow 2 p = Nat.pow 2 y.exp :=
      Nat.pow_sub_mul_pow 2 coarser
    exact .inl ⟨y.man * Nat.pow 2 (y.exp - p), by rw [magnitude, Nat.mul_assoc, parts]⟩

theorem magnitude_of_ofRatio? (made : ofRatio? neg num den = some x) :
    x.neg = neg ∧ x.magnitude = divRoundEven (num * Nat.pow 2 1074)
        (den * Nat.pow 2 (scaleOf (num * Nat.pow 2 1074) den)) *
          Nat.pow 2 (scaleOf (num * Nat.pow 2 1074) den) := by
  unfold ofRatio? at made
  dsimp only at made
  split at made
  next small =>
    split at made
    · cases made
      exact ⟨rfl, rfl⟩
    · cases made
  next large =>
    split at made
    · cases made
      -- The quotient has 53 digits and is rounded up to the least number of 54.
      have up := divRoundEven_le (num * Nat.pow 2 1074)
        (den * Nat.pow 2 (scaleOf (num * Nat.pow 2 1074) den))
      have less := div_scale_lt (num * Nat.pow 2 1074) den
      have full : divRoundEven (num * Nat.pow 2 1074)
          (den * Nat.pow 2 (scaleOf (num * Nat.pow 2 1074) den)) = 0x20000000000000 := by omega
      have doubled := Nat.pow_succ 2 (scaleOf (num * Nat.pow 2 1074) den)
      refine ⟨rfl, ?_⟩
      rw [full]
      change 0x10000000000000 * 2 ^ (_ + 1) = 0x20000000000000 * 2 ^ _
      omega
    · cases made

theorem distance_ofRatio?_le (made : ofRatio? neg num 1 = some x) (y : Binary64) :
    (x.magnitude - (num * Nat.pow 2 1074 : Nat) : Int).natAbs ≤
      (y.magnitude - (num * Nat.pow 2 1074 : Nat) : Int).natAbs := by
  obtain ⟨-, rounded⟩ := magnitude_of_ofRatio? made
  generalize num * Nat.pow 2 1074 = scaled at *
  rw [Nat.one_mul] at rounded
  have near := distance_divRoundEven_le (two_pow_positive (scaleOf scaled 1)) scaled
  rw [rounded]
  rcases magnitude_on_grid y (scaleOf scaled 1) with ⟨k, same⟩ | ⟨spare, less⟩
  · rw [same]
    exact near k
  · have reach := le_div_scale scaled 1 spare
    rw [Nat.one_mul, Nat.le_div_iff_mul_le (two_pow_positive _)] at reach
    have corner := near 0x10000000000000
    omega

theorem exists_ofRatio? (small : num < 2 ^ 64) (neg : Bool) :
    ∃ x, ofRatio? neg num 1 = some x := by
  have fits : scaleOf (num * Nat.pow 2 1074) 1 ≤ 11 + 1074 := by
    generalize 1074 = k
    exact scaleOf_le_add small k
  unfold ofRatio?
  dsimp only
  split
  · rw [dif_pos (by omega)]
    exact ⟨_, rfl⟩
  · rw [dif_pos (by omega)]
    exact ⟨_, rfl⟩

def IsNearest (x : Binary64) (n : Int) : Prop := ∀ y : Binary64, |x.value - n| ≤ |y.value - n|

theorem isNearest_of_value_eq (same : x.value = n) : x.IsNearest n := by
  intro y
  rw [same, sub_self, abs_zero]
  exact abs_nonneg _

def units (x : Binary64) : Int := if x.neg then -x.magnitude else x.magnitude

theorem value_eq_units (x : Binary64) : x.value = (x.units : ℚ) / (Nat.pow 2 1074 : Nat) := by
  unfold value units
  split
  · push_cast
    ring
  · push_cast
    ring

theorem distance_value (x : Binary64) (n : Int) :
    |x.value - n| =
      ((x.units - n * (Nat.pow 2 1074 : Nat)).natAbs : ℚ) / (Nat.pow 2 1074 : Nat) := by
  rw [value_eq_units]
  generalize 1074 = k
  have positive : (0 : ℚ) < (Nat.pow 2 k : Nat) := Nat.cast_pos.2 (two_pow_positive k)
  generalize Nat.pow 2 k = unit at *
  have joined : (x.units : ℚ) / unit - n = ((x.units - n * unit : Int) : ℚ) / unit := by
    push_cast
    field_simp
  rw [joined, abs_div, Nat.abs_cast, Nat.cast_natAbs, Int.cast_abs]

theorem distance_units_le (made : ofRatio? neg num 1 = some x) (y : Binary64) :
    let signed : Int := if neg then -(num * Nat.pow 2 1074 : Nat) else (num * Nat.pow 2 1074 : Nat)
    (x.units - signed).natAbs ≤ (y.units - signed).natAbs := by
  have here := distance_ofRatio?_le made y
  have origin := distance_ofRatio?_le made (zero neg)
  have nothing : (zero neg).magnitude = 0 := rfl
  rw [nothing] at origin
  rw [units, units, (magnitude_of_ofRatio? made).1]
  generalize num * Nat.pow 2 1074 = scaled at *
  cases neg <;> cases y.neg <;> simp only [Bool.false_eq_true, if_false, if_true] <;> omega

theorem isNearest_of_ofRatio? (made : ofRatio? neg num 1 = some x) :
    x.IsNearest (if neg then -num else num) := by
  intro y
  have close := distance_units_le made y
  have signed : (if neg then -num else num : Int) * (Nat.pow 2 1074 : Nat) =
      if neg then -((num * Nat.pow 2 1074 : Nat) : Int) else (num * Nat.pow 2 1074 : Nat) := by
    generalize Nat.pow 2 1074 = unit
    cases neg <;> simp
  rw [distance_value, distance_value, signed]
  exact div_le_div_of_nonneg_right (Nat.cast_le.2 close) (Nat.cast_nonneg _)

theorem IsNearest.value_eq_iff (nearest : x.IsNearest n) :
    x.value = n ↔ ∃ y : Binary64, y.value = n := by
  constructor
  · intro same
    exact ⟨x, same⟩
  · rintro ⟨y, same⟩
    have close := nearest y
    rw [same, sub_self, abs_zero] at close
    exact sub_eq_zero.1 (abs_nonpos_iff.1 close)

theorem exists_value_of_le (small : n.natAbs ≤ 0x20000000000000) :
    ∃ x : Binary64, x.value = n := by
  rcases Nat.lt_or_eq_of_le small with less | same
  · obtain ⟨x, -, value⟩ := ofInt?_of_small less
    exact ⟨x, value⟩
  · have power : n = 0x20000000000000 ∨ n = -0x20000000000000 := by omega
    rcases power with rfl | rfl
    · exact ⟨⟨false, 0x10000000000000, 1075, by decide, by decide, .inr (by decide)⟩,
        toInt?_eq_some_iff.1 (by decide +kernel)⟩
    · exact ⟨⟨true, 0x10000000000000, 1075, by decide, by decide, .inr (by decide)⟩,
        toInt?_eq_some_iff.1 (by decide +kernel)⟩

end RefData.Binary64
