set_option autoImplicit false

namespace RefData

/-- A finite IEEE double, the number `± man * 2 ^ exp / 2 ^ 1074` with 53 binary digits. The three
bounds leave one form for each double, so equal numbers of one sign are equal values. -/
structure Binary64 where
  neg : Bool
  man : Nat
  exp : Nat
  man_lt : man < 0x20000000000000
  exp_le : exp ≤ 2045
  normal : exp = 0 ∨ 0x10000000000000 ≤ man
  deriving DecidableEq

namespace Binary64

def divRoundEven (num den : Nat) : Nat :=
  let q := num / den
  let r := num % den
  if 2 * r < den then q
  else if den < 2 * r then q + 1
  else q + q % 2

theorem div_le_divRoundEven (num den : Nat) : num / den ≤ divRoundEven num den := by
  unfold divRoundEven
  dsimp only
  split
  · exact Nat.le_refl _
  · split <;> omega

theorem divRoundEven_le (num den : Nat) : divRoundEven num den ≤ num / den + 1 := by
  unfold divRoundEven
  dsimp only
  split
  · omega
  · split <;> omega

def scaleOf (scaled den : Nat) : Nat := (scaled / den).log2 - 52

theorem div_scale_lt (scaled den : Nat) :
    scaled / (den * Nat.pow 2 (scaleOf scaled den)) < 0x20000000000000 := by
  change scaled / (den * 2 ^ scaleOf scaled den) < 2 ^ 53
  rw [← Nat.div_div_eq_div_mul]
  refine Nat.div_lt_of_lt_mul ?_
  rw [← Nat.pow_add]
  refine Nat.lt_of_lt_of_le Nat.lt_log2_self (Nat.pow_le_pow_right (by decide) ?_)
  unfold scaleOf
  omega

theorem le_div_scale (scaled den : Nat) (spare : scaleOf scaled den ≠ 0) :
    0x10000000000000 ≤ scaled / (den * Nat.pow 2 (scaleOf scaled den)) := by
  have long : 52 < (scaled / den).log2 := by unfold scaleOf at spare; omega
  have nonzero : scaled / den ≠ 0 := by
    intro zero
    rw [zero] at long
    simp at long
  change 2 ^ 52 ≤ scaled / (den * 2 ^ scaleOf scaled den)
  rw [← Nat.div_div_eq_div_mul, Nat.le_div_iff_mul_le (Nat.two_pow_pos _), ← Nat.pow_add]
  have reach : 2 ^ (scaled / den).log2 ≤ scaled / den := Nat.log2_self_le nonzero
  have split : 52 + scaleOf scaled den = (scaled / den).log2 := by unfold scaleOf; omega
  rwa [split]

def ofRatio? (neg : Bool) (num den : Nat) : Option Binary64 :=
  let scaled := num * Nat.pow 2 1074
  let exp := scaleOf scaled den
  let man := divRoundEven scaled (den * Nat.pow 2 exp)
  if small : man < 0x20000000000000 then
    if fits : exp ≤ 2045 then
      some ⟨neg, man, exp, small, fits, by
        rcases Nat.eq_zero_or_pos exp with zero | spare
        · exact .inl zero
        · exact .inr (Nat.le_trans (le_div_scale scaled den (Nat.ne_of_gt spare))
            (div_le_divRoundEven _ _))⟩
    else none
  else if fits : exp + 1 ≤ 2045 then
    some ⟨neg, 0x10000000000000, exp + 1, by decide, fits, .inr (Nat.le_refl _)⟩
  else none

def zero (neg : Bool) : Binary64 := ⟨neg, 0, 0, by decide, by decide, .inl rfl⟩

def digitCount (n : Nat) : Nat := if n = 0 then 0 else (Nat.toDigits 10 n).length

/-- The double nearest to `digits * 10 ^ exponent`. Far outside the range of a double the answer is
known without the power: nothing above, zero below. -/
def ofDecimal? (neg : Bool) (digits : Nat) (exponent : Int) : Option Binary64 :=
  if digits = 0 then some (zero neg)
  else if exponent + digitCount digits > 400 then none
  else if exponent + digitCount digits < -400 then some (zero neg)
  else ofRatio? neg (digits * Nat.pow 10 exponent.toNat) (Nat.pow 10 (-exponent).toNat)

def ofInt? (n : Int) : Option Binary64 := ofRatio? (n < 0) n.natAbs 1

def magnitude (x : Binary64) : Nat := x.man * Nat.pow 2 x.exp

def isZero (x : Binary64) : Bool := x.man == 0

def toInt? (x : Binary64) : Option Int :=
  let unit := Nat.pow 2 1074
  if x.magnitude % unit = 0 then
    let n : Int := (x.magnitude / unit : Nat)
    some (if x.neg then -n else n)
  else none

end Binary64

end RefData
