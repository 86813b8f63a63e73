import Mathlib.Data.Rat.Cast.Defs
import Mathlib.Tactic.FieldSimp
import Mathlib.Tactic.Ring
import RefData.Number.Notation
set_option autoImplicit false

namespace RefData

theorem isDigit_of_mem_natDigits {n : Nat} {c : Char} (mem : c ∈ natDigits n) :
    isDigit c = true := by
  have digit := Nat.isDigit_of_mem_toDigits (by decide) (by decide) mem
  simpa [isDigit, Char.isDigit, Char.le_def] using digit

theorem digitsValue_natDigits (n : Nat) : digitsValue (natDigits n) = n :=
  Nat.ofDigitChars_ten_toDigits

theorem takeSign_natDigits (n : Nat) : takeSign (natDigits n) = (false, natDigits n) := by
  have digits := @isDigit_of_mem_natDigits n
  unfold takeSign
  split
  next rest same => exact absurd (digits (same ▸ List.mem_cons_self)) (by decide)
  next rest same => exact absurd (digits (same ▸ List.mem_cons_self)) (by decide)
  next => rfl

theorem readInt?_intText (n : Int) : readInt? (intText n) = some n := by
  have filled : (natDigits n.natAbs).isEmpty = false := by
    rw [List.isEmpty_eq_false_iff]
    exact Nat.toDigits_ne_nil
  have digits : (natDigits n.natAbs).all isDigit = true :=
    List.all_eq_true.2 fun c => isDigit_of_mem_natDigits
  by_cases below : n < 0
  · have negated : -(n.natAbs : Int) = n := by omega
    simpa [readInt?, intText, below, takeSign, filled, digits, digitsValue_natDigits] using negated
  · have same : (n.natAbs : Int) = n := by omega
    simpa [readInt?, intText, below, takeSign_natDigits, filled, digits,
      digitsValue_natDigits] using same

theorem readInt64?_intText {n : Int} (low : minInt64 ≤ n) (high : n ≤ maxInt64) :
    readInt64? (intText n) = some n := by
  simp [readInt64?, readInt?_intText, low, high]

theorem intText_injective : Function.Injective intText := by
  intro m n same
  have read := congrArg readInt? same
  rwa [readInt?_intText, readInt?_intText, Option.some_inj] at read

theorem toString_eq_intText (n : Int) : toString n = String.ofList (intText n) := by
  rw [Int.toString_eq_repr, Int.repr_eq_if, Nat.repr_eq_ofList_toDigits,
    Nat.repr_eq_ofList_toDigits, intText]
  by_cases below : n < 0
  · have size : (-n).toNat = n.natAbs := by omega
    rw [if_neg (by omega), if_pos below, size, natDigits, ← List.singleton_append,
      String.ofList_append]
  · have size : n.toNat = n.natAbs := by omega
    rw [if_pos (by omega), if_neg below, size, natDigits]

namespace Binary64

def value (x : Binary64) : ℚ :=
  (if x.neg then -1 else 1) * ((x.magnitude : ℚ) / (Nat.pow 2 1074 : Nat))

theorem quotient_eq_iff {m u : Nat} (positive : 0 < u) (n : Int) :
    (m : ℚ) / u = n ↔ m % u = 0 ∧ ((m / u : Nat) : Int) = n := by
  have filled : (u : ℚ) ≠ 0 := by exact_mod_cast positive.ne'
  have product : (m : ℚ) / u = n ↔ (m : Int) = n * u := by
    rw [div_eq_iff filled]
    norm_cast
  rw [product]
  constructor
  · intro whole
    have divides : u ∣ m := Int.natCast_dvd_natCast.1 ⟨n, whole.trans (mul_comm _ _)⟩
    refine ⟨Nat.mod_eq_zero_of_dvd divides, ?_⟩
    rw [Int.natCast_div, whole]
    exact Int.mul_ediv_cancel n (by exact_mod_cast positive.ne')
  · rintro ⟨whole, rfl⟩
    exact_mod_cast (Nat.div_mul_cancel (Nat.dvd_of_mod_eq_zero whole)).symm

theorem signed_quotient_eq_iff {m u : Nat} (positive : 0 < u) (neg : Bool) (n : Int) :
    (if m % u = 0 then some (if neg then -((m / u : Nat) : Int) else ((m / u : Nat) : Int))
      else none) = some n ↔ (if neg then -1 else 1) * ((m : ℚ) / u) = n := by
  cases neg
  · simp only [Bool.false_eq_true, if_false, one_mul, quotient_eq_iff positive]
    split <;> simp [*]
  · have turned : -1 * ((m : ℚ) / u) = n ↔ (m : ℚ) / u = (-n : Int) := by
      push_cast
      rw [neg_one_mul, neg_eq_iff_eq_neg]
    simp only [if_true, turned, quotient_eq_iff positive]
    split <;> simp [*, neg_eq_iff_eq_neg]

-- Powers of two as the definitions write them, with exponents too large to be worked out.

theorem two_pow_positive (k : Nat) : 0 < Nat.pow 2 k := Nat.two_pow_pos k

theorem two_pow_dvd {j k : Nat} (le : j ≤ k) : Nat.pow 2 j ∣ Nat.pow 2 k := Nat.pow_dvd_pow 2 le

theorem toInt?_eq_some_iff {x : Binary64} {n : Int} : x.toInt? = some n ↔ x.value = n := by
  unfold toInt? value
  generalize 1074 = k
  exact signed_quotient_eq_iff (two_pow_positive k) x.neg n

theorem value_of_magnitude {x : Binary64} {n : Int} {k : Nat} (unit : 1074 = k)
    (sign : x.neg = decide (n < 0)) (magnitude : x.magnitude = n.natAbs * Nat.pow 2 k) :
    x.value = n := by
  unfold value
  rw [unit]
  have size : ((n.natAbs : ℚ) * (Nat.pow 2 k : Nat)) / (Nat.pow 2 k : Nat) = n.natAbs :=
    mul_div_cancel_right₀ _ (Nat.cast_ne_zero.2 (two_pow_positive k).ne')
  rw [magnitude, Nat.cast_mul, size, sign]
  by_cases below : n < 0
  · have negated : -(n.natAbs : Int) = n := by omega
    have cast := congrArg (Int.cast : Int → ℚ) negated
    rw [Int.cast_neg, Int.cast_natCast] at cast
    rw [if_pos (decide_eq_true below), neg_one_mul, cast]
  · have same : (n.natAbs : Int) = n := by omega
    have cast := congrArg (Int.cast : Int → ℚ) same
    rw [Int.cast_natCast] at cast
    rw [if_neg (by simpa using below), one_mul, cast]

theorem divRoundEven_of_dvd {num den : Nat} (positive : 0 < den) (divides : den ∣ num) :
    divRoundEven num den = num / den := by
  simp [divRoundEven, Nat.mod_eq_zero_of_dvd divides, positive]

theorem scaleOf_le_add {num j : Nat} (small : num < 2 ^ (53 + j)) (k : Nat) :
    scaleOf (num * Nat.pow 2 k) 1 ≤ j + k := by
  rw [scaleOf, Nat.div_one]
  by_cases zero : num = 0
  · simp [zero]
  · have nonzero : num * Nat.pow 2 k ≠ 0 := Nat.mul_ne_zero zero (two_pow_positive k).ne'
    have below : num * Nat.pow 2 k < 2 ^ (53 + j + k) := by
      rw [Nat.pow_add]
      exact (Nat.mul_lt_mul_right (two_pow_positive k)).2 small
    have := (Nat.log2_lt nonzero).2 below
    omega

theorem scaleOf_le {num : Nat} (small : num < 0x20000000000000) (k : Nat) :
    scaleOf (num * Nat.pow 2 k) 1 ≤ k :=
  (scaleOf_le_add (j := 0) small k).trans_eq (Nat.zero_add k)

theorem divRoundEven_scale {num : Nat} (small : num < 0x20000000000000) (k : Nat) :
    divRoundEven (num * Nat.pow 2 k) (1 * Nat.pow 2 (scaleOf (num * Nat.pow 2 k) 1)) =
      num * Nat.pow 2 k / (1 * Nat.pow 2 (scaleOf (num * Nat.pow 2 k) 1)) := by
  have divides := two_pow_dvd (scaleOf_le small k)
  apply divRoundEven_of_dvd (Nat.mul_pos Nat.one_pos (two_pow_positive _))
  rw [Nat.one_mul]
  exact Nat.dvd_mul_left_of_dvd divides num

theorem divRoundEven_scale_lt {num : Nat} (small : num < 0x20000000000000) (k : Nat) :
    divRoundEven (num * Nat.pow 2 k) (1 * Nat.pow 2 (scaleOf (num * Nat.pow 2 k) 1)) <
      0x20000000000000 := by
  rw [divRoundEven_scale small]
  exact div_scale_lt _ 1

theorem divRoundEven_scale_mul {num : Nat} (small : num < 0x20000000000000) (k : Nat) :
    divRoundEven (num * Nat.pow 2 k) (1 * Nat.pow 2 (scaleOf (num * Nat.pow 2 k) 1)) *
      Nat.pow 2 (scaleOf (num * Nat.pow 2 k) 1) = num * Nat.pow 2 k := by
  have divides := two_pow_dvd (scaleOf_le small k)
  rw [divRoundEven_scale small, Nat.one_mul,
    Nat.div_mul_cancel (Nat.dvd_mul_left_of_dvd divides num)]

theorem ofRatio?_of_fits {neg : Bool} {num den : Nat}
    (short : divRoundEven (num * Nat.pow 2 1074)
      (den * Nat.pow 2 (scaleOf (num * Nat.pow 2 1074) den)) < 0x20000000000000)
    (fits : scaleOf (num * Nat.pow 2 1074) den ≤ 2045) :
    ∃ x, ofRatio? neg num den = some x ∧ x.neg = neg ∧
      x.magnitude = divRoundEven (num * Nat.pow 2 1074)
        (den * Nat.pow 2 (scaleOf (num * Nat.pow 2 1074) den)) *
          Nat.pow 2 (scaleOf (num * Nat.pow 2 1074) den) :=
  ⟨_, (dif_pos short).trans (dif_pos fits), rfl, rfl⟩

theorem ofInt?_of_small {n : Int} (small : n.natAbs < 0x20000000000000) :
    ∃ x, ofInt? n = some x ∧ x.value = n := by
  have made := @ofRatio?_of_fits (n < 0) n.natAbs 1
  generalize unit : 1074 = k at made
  have fits : scaleOf (n.natAbs * Nat.pow 2 k) 1 ≤ 2045 := (scaleOf_le small k).trans (by omega)
  obtain ⟨x, made, sign, magnitude⟩ := made (divRoundEven_scale_lt small k) fits
  rw [divRoundEven_scale_mul small] at magnitude
  exact ⟨x, made, value_of_magnitude unit sign magnitude⟩

end Binary64

end RefData
