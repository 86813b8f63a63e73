import RefData.Text.Blank
import RefData.Text.Utf8
set_option autoImplicit false

namespace RefData.Url.Punycode

-- A label with characters beyond ASCII is written as its ASCII characters, followed by the places
-- where the others go, as numbers in digits of growing weight.

def base : Nat := 36
def skew : Nat := 38
def damp : Nat := 700
def firstBias : Nat := 72
def firstPoint : Nat := 128

def numberBound : Nat := UInt32.size

def threshold (position bias : Nat) : Nat :=
  if position ≤ bias then 1 else if position ≥ bias + 26 then 26 else position - bias

theorem threshold_pos (position bias : Nat) : 0 < threshold position bias := by
  unfold threshold
  split
  · omega
  · split <;> omega

def adaptLoop (delta bias : Nat) : Nat :=
  if 455 < delta then adaptLoop (delta / 35) (bias + base)
  else bias + base * delta / (delta + skew)
termination_by delta
decreasing_by exact Nat.div_lt_self (by omega) (by omega)

def adapt (delta length : Nat) (first : Bool) : Nat :=
  let delta := if first then delta / damp else delta / 2
  adaptLoop (delta + delta / length) 0

def digitChar (d : Nat) : Char :=
  if d < 26 then Char.ofNat (d + 'a'.toNat) else Char.ofNat (d - 26 + '0'.toNat)

def digit? (c : Char) : Option Nat :=
  if 'a' ≤ c && c ≤ 'z' then some (c.toNat - 'a'.toNat)
  else if 'A' ≤ c && c ≤ 'Z' then some (c.toNat - 'A'.toNat)
  else if '0' ≤ c && c ≤ '9' then some (c.toNat - '0'.toNat + 26)
  else none

def writeNumber (bias position n : Nat) : List Char :=
  let t := threshold position bias
  if n < t then [digitChar n]
  else digitChar (t + (n - t) % (base - t)) ::
    writeNumber bias (position + base) ((n - t) / (base - t))
termination_by n
decreasing_by
  have positive := threshold_pos position bias
  exact Nat.lt_of_le_of_lt (Nat.div_le_self _ _) (by omega)

structure Writing where
  delta : Nat
  bias : Nat
  length : Nat
  digits : List Char

def writePoint (basic point : Nat) (label : List Char) (w : Writing) : Writing :=
  label.foldl (fun w c =>
    if c.toNat < point then { w with delta := w.delta + 1 }
    else if c.toNat = point then
      { delta := 0
        bias := adapt w.delta (w.length + 1) (w.length == basic)
        length := w.length + 1
        digits := w.digits ++ writeNumber w.bias base w.delta }
    else w) w

def points (label : List Char) : List Nat :=
  ((label.map Char.toNat).filter (· ≥ firstPoint)).mergeSort.eraseDups

def encode (label : List Char) : List Char :=
  let basic := label.filter fun c => c.toNat < firstPoint
  let step := fun (acc : Writing × Nat) (point : Nat) =>
    let (w, last) := acc
    let w := { w with delta := w.delta + (point - last) * (w.length + 1) }
    let w := writePoint basic.length point label w
    ({ w with delta := w.delta + 1 }, point + 1)
  let start : Writing := ⟨0, firstBias, basic.length, []⟩
  let digits := ((points label).foldl step (start, firstPoint)).1.digits
  basic ++ (if basic.isEmpty then [] else ['-']) ++ digits

def readNumber? (bias position weight sum : Nat) : List Char → Option (Nat × List Char)
  | [] => none
  | c :: rest => do
    let d ← digit? c
    let sum := sum + d * weight
    if numberBound ≤ sum then none
    else
      let t := threshold position bias
      if d < t then some (sum, rest)
      else
        let weight := weight * (base - t)
        if numberBound ≤ weight then none
        else readNumber? bias (position + base) weight sum rest

theorem readNumber?_shorter {bias position weight sum : Nat} {digits : List Char} {n : Nat}
    {rest : List Char} (read : readNumber? bias position weight sum digits = some (n, rest)) :
    rest.length < digits.length := by
  induction digits generalizing position weight sum with
  | nil => simp [readNumber?] at read
  | cons c more ih =>
    simp only [readNumber?, Option.bind_eq_bind, Option.bind_eq_some_iff] at read
    obtain ⟨d, -, read⟩ := read
    split at read
    · cases read
    · split at read
      · simp only [Option.some.injEq, Prod.mk.injEq] at read
        simp [read.2]
      · split at read
        · cases read
        · exact Nat.lt_succ_of_lt (ih read)

/-- Puts the characters that the digits stand for into a label, the next one at or behind `place`
with a number not below `point`. -/
def fill? (label : List Char) (place point bias : Nat) (digits : List Char) : Option (List Char) :=
  if digits.isEmpty then some label
  else
    match _read : readNumber? bias base 1 place digits with
    | none => none
    | some (n, rest) =>
      let length := label.length + 1
      let point := point + n / length
      let slot := n % length
      if Text.isScalar point then
        fill? (label.take slot ++ Char.ofNat point :: label.drop slot) (slot + 1) point
          (adapt (n - place) length (place == 0)) rest
      else none
termination_by digits.length
decreasing_by exact readNumber?_shorter _read

def decode? (text : List Char) : Option (List Char) :=
  match Text.splitLast? '-' text with
  | some ([], _) => none
  | some (basic, digits) => fill? basic 0 firstPoint firstBias digits
  | none => fill? [] 0 firstPoint firstBias text

end RefData.Url.Punycode
