import RefData.Text.Fold
set_option autoImplicit false

namespace RefData.Collation

/-- Characters of one class stand together: white space, punctuation, numbers, Cyrillic, Latin,
everything else. -/
def classOf (c : Char) : Nat :=
  if Text.isBlank c then 0
  else if isPunctuation c then 1
  else if Text.isNumeric c then 2
  else if 0x0400 ≤ c.toNat ∧ c.toNat ≤ 0x04FF then 3
  else if c.isAlpha then 4
  else 5
where
  isPunctuation (c : Char) : Bool :=
    0x21 ≤ c.toNat && c.toNat ≤ 0x2F || 0x3A ≤ c.toNat && c.toNat ≤ 0x40
      || 0x5B ≤ c.toNat && c.toNat ≤ 0x60 || 0x7B ≤ c.toNat && c.toNat ≤ 0x7E

def placeOf (c : Char) : Nat := if c = 'ё' then 'е'.toNat * 2 + 1 else c.toNat * 2

def weight (c : Char) : Nat × Nat := (classOf c, placeOf c)

def weights (s : String) : List (Nat × Nat) := (s.toList.flatMap Text.lowerChar).map weight

def cases (s : String) : List Bool := s.toList.map Text.isUppercase

def compareWeight (a b : Nat × Nat) : Ordering := (compare a.1 b.1).then (compare a.2 b.2)

def compareLists {α : Type} (cmp : α → α → Ordering) : List α → List α → Ordering
  | [], [] => .eq
  | [], _ :: _ => .lt
  | _ :: _, [] => .gt
  | a :: as, b :: bs => (cmp a b).then (compareLists cmp as bs)

/-- The order of names in a list shown to a reader: by weights, then lower case before upper, then
by code point. -/
def compareNames (a b : String) : Ordering :=
  ((compareLists compareWeight (weights a) (weights b)).then
    (compareLists compare (cases a) (cases b))).then (compare a b)

def compareNames? (a b : Option String) : Ordering := compareNames (a.getD "") (b.getD "")

def nameLE (a b : String) : Bool := compareNames a b != .gt

def sortByName {α : Type} (name : α → String) (items : List α) : List α :=
  items.mergeSort fun a b => nameLE (name a) (name b)

end RefData.Collation
