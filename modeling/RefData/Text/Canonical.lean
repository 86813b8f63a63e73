import RefData.Text.CanonicalData
set_option autoImplicit false

namespace RefData.Text

-- Hangul syllables are arranged by their parts, so that arithmetic takes the place of a table.
def hangulBase : Nat := 0xAC00
def leadBase : Nat := 0x1100
def vowelBase : Nat := 0x1161
def tailBase : Nat := 0x11A7
def leadCount : Nat := 19
def vowelCount : Nat := 21
def tailCount : Nat := 28
def syllableCount : Nat := leadCount * vowelCount * tailCount

def decomposeSyllable (index : Nat) : List Nat :=
  let lead := leadBase + index / (vowelCount * tailCount)
  let vowel := vowelBase + index % (vowelCount * tailCount) / tailCount
  let tail := index % tailCount
  if tail = 0 then [lead, vowel] else [lead, vowel, tailBase + tail]

def decomposeChar (c : Char) : List Char :=
  let n := c.toNat
  if n < 0xC0 then [c]
  else if hangulBase ≤ n && n < hangulBase + syllableCount then
    (decomposeSyllable (n - hangulBase)).map Char.ofNat
  else match decompositions.find? (·.1 == n) with
    | some (_, parts) => parts.map Char.ofNat
    | none => [c]

def combiningClass (c : Char) : Nat :=
  match combiningClasses.find? fun (first, last, _) => first ≤ c.toNat && c.toNat ≤ last with
  | some (_, _, k) => k
  | none => 0

def insertByClass (c : Char) : List Char → List Char
  | [] => [c]
  | d :: rest =>
    if combiningClass d ≠ 0 ∧ combiningClass d < combiningClass c then d :: insertByClass c rest
    else c :: d :: rest

def reorder (cs : List Char) : List Char := cs.foldr insertByClass []

def composeSyllable? (a b : Nat) : Option Nat :=
  if leadBase ≤ a && a < leadBase + leadCount && vowelBase ≤ b && b < vowelBase + vowelCount then
    some (hangulBase + ((a - leadBase) * vowelCount + (b - vowelBase)) * tailCount)
  else if hangulBase ≤ a && a < hangulBase + syllableCount && (a - hangulBase) % tailCount == 0
      && tailBase < b && b < tailBase + tailCount then
    some (a + (b - tailBase))
  else none

def composePair? (a b : Char) : Option Char :=
  match composeSyllable? a.toNat b.toNat with
  | some n => some (Char.ofNat n)
  | none =>
    (composites.find? fun (x, y, _) => x == a.toNat && y == b.toNat).map fun (_, _, c) =>
      Char.ofNat c

/-- Composes what follows a base character. `pending` holds the marks that stayed apart from it,
the last one first; a mark is blocked by one of its own or a higher class. -/
def composeFrom (base : Char) (pending : List Char) : List Char → List Char
  | [] => base :: pending.reverse
  | c :: rest =>
    let blocked := match pending with
      | [] => false
      | last :: _ => combiningClass c ≤ combiningClass last
    match if blocked then none else composePair? base c with
    | some composite => composeFrom composite pending rest
    | none =>
      if combiningClass c = 0 then base :: (pending.reverse ++ composeFrom c [] rest)
      else composeFrom base (c :: pending) rest

def compose : List Char → List Char
  | [] => []
  | c :: rest => if combiningClass c = 0 then composeFrom c [] rest else c :: compose rest

def nfc (cs : List Char) : List Char := compose (reorder (cs.flatMap decomposeChar))

end RefData.Text
