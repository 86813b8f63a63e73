import RefData.Json.Value
set_option autoImplicit false

namespace RefData.Json

-- Strict reading of structures, in contrast to the loose readings of raw records.

/-- The values of the named fields of a structure. It comes as an object, where other fields are
ignored, or as a list of at least `least` values in the order of the names. -/
def slots? (names : List String) (least : Nat) : Json → Option (List (Option Json))
  | .obj fields => some (names.map fun name => Assoc.get? name fields)
  | .arr items =>
    if least ≤ items.length ∧ items.length ≤ names.length then
      some (names.zipIdx.map fun (_, i) => items[i]?)
    else none
  | _ => none

def required? {α : Type} (read : Json → Option α) (slot : Option Json) : Option α := slot.bind read

def orDefault? {α : Type} (fallback : α) (read : Json → Option α) : Option Json → Option α
  | none => some fallback
  | some v => read v

def nullable? {α : Type} (read : Json → Option α) : Option Json → Option (Option α)
  | none => some none
  | some .null => some none
  | some v => (read v).map some

def listOf? {α : Type} (read : Json → Option α) : Json → Option (List α)
  | .arr items => items.mapM read
  | _ => none

def word? : Json → Option String
  | .str word => some word
  | .obj [(word, .null)] => some word
  | _ => none

def nat64? : Json → Option Nat
  | .int n => if 0 ≤ n then some n.toNat else none
  | _ => none

end RefData.Json
