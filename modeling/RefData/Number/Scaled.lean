import RefData.Number.Binary64
set_option autoImplicit false

namespace RefData.Binary64

def mul? (x y : Binary64) : Option Binary64 :=
  ofRatio? (x.neg != y.neg) (x.magnitude * y.magnitude) (Nat.pow 2 2148)

def div? (x y : Binary64) : Option Binary64 := ofRatio? (x.neg != y.neg) x.magnitude y.magnitude

def powerOfTen? (n : Nat) : Option Binary64 := ofDecimal? false 1 n

def maxPower : Nat := 308

/-- Scales by a power of ten, each step rounded. Divisions by the greatest power come first, and two
of them make zero of any number below `2 ^ 64`. -/
def scaleTen? (steps : Nat) (x : Binary64) (exponent : Int) : Option Binary64 :=
  if exponent.natAbs ≤ maxPower then do
    let power ← powerOfTen? exponent.natAbs
    if 0 ≤ exponent then x.mul? power else x.div? power
  else if x.isZero then some x
  else if 0 ≤ exponent then none
  else match steps with
    | 0 => some (zero false)
    | steps + 1 => do
      let power ← powerOfTen? maxPower
      let y ← x.div? power
      scaleTen? steps y (exponent + maxPower)

/-- A double from the leading digits of a decimal: they are rounded first and then scaled, so that
long or far-off decimals may come out beside the nearest double. -/
def ofParts? (neg : Bool) (significand : Nat) (exponent : Int) : Option Binary64 := do
  let x ← ofRatio? false significand 1
  let y ← scaleTen? 3 x exponent
  return { y with neg := neg }

end RefData.Binary64
