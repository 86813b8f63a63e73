import RefData.Number.Binary64
set_option autoImplicit false

namespace RefData

structure Decimal where
  digits : Nat
  place : Int
  deriving DecidableEq

namespace Binary64

-- Lengths below are counted in units of 2 ^ -1076, a quarter of the least double.

def quarters (x : Binary64) : Nat := 4 * x.magnitude

def reachBelow (x : Binary64) : Nat :=
  let unit := Nat.pow 2 x.exp
  if x.man = 0x10000000000000 ∧ x.exp ≠ 0 then unit else 2 * unit

def reachAbove (x : Binary64) : Nat := 2 * Nat.pow 2 x.exp

def readsBack (x : Binary64) (d : Decimal) : Bool :=
  let up := Nat.pow 10 (-d.place).toNat
  let here := d.digits * Nat.pow 10 d.place.toNat * Nat.pow 2 1076
  let low := (x.quarters - x.reachBelow) * up
  let high := (x.quarters + x.reachAbove) * up
  if x.man % 2 = 0 then low ≤ here && here ≤ high else low < here && here < high

def leadingPlace (x : Binary64) : Int :=
  let one := Nat.pow 2 1076
  let whole := x.quarters / one
  if whole = 0 then -(digitCount ((one - 1) / x.quarters) : Int)
  else (digitCount whole : Int) - 1

def nearestAt? (x : Binary64) (place : Int) : Option Decimal :=
  let num := x.quarters * Nat.pow 10 (-place).toNat
  let den := Nat.pow 2 1076 * Nat.pow 10 place.toNat
  let down : Decimal := ⟨num / den, place⟩
  let up : Decimal := ⟨num / den + 1, place⟩
  match x.readsBack down, x.readsBack up with
  | true, true =>
    let r := num % den
    if 2 * r < den ∨ (2 * r = den ∧ down.digits % 2 = 0) then some down else some up
  | true, false => some down
  | false, true => some up
  | false, false => none

/-- The decimal with the fewest digits that reads back, of those the nearest; seventeen always do. -/
def shortest (x : Binary64) : Decimal :=
  let lead := x.leadingPlace
  ((List.range 17).findSome? fun n : Nat => x.nearestAt? (lead - n)).getD ⟨x.quarters, 0⟩

end Binary64

end RefData
