import RefData.Dict
import RefData.Number.Notation
set_option autoImplicit false

namespace RefData

/-- A JSON value. Whole numbers of 64 bits are kept apart from doubles; the fields of an object
stand in key order, each key once. -/
inductive Json where
  | null
  | bool (b : Bool)
  | int (n : Int)
  | float (x : Binary64)
  | str (s : String)
  | arr (items : List Json)
  | obj (fields : List (String × Json))
  deriving Inhabited

namespace Json

def ofFields (fields : List (String × Json)) : Json :=
  .obj (fields.foldl (fun acc f => Assoc.insert f.1 f.2 acc) [])

def field? (v : Json) (key : String) : Option Json :=
  match v with
  | .obj fields => Assoc.get? key fields
  | _ => none

def fields? : Json → Option (List (String × Json))
  | .obj fields => some fields
  | _ => none

def items? : Json → Option (List Json)
  | .arr items => some items
  | _ => none

def str? : Json → Option String
  | .str s => some s
  | _ => none

def bool? : Json → Option Bool
  | .bool b => some b
  | _ => none

def isNull : Json → Bool
  | .null => true
  | _ => false

def int64? : Json → Option Int
  | .int n => if n ≤ maxInt64 then some n else none
  | _ => none

def ofOption : Option Json → Json
  | some v => v
  | none => .null

def ofStr? (s : Option String) : Json := ofOption (s.map .str)

def ofInt? (n : Option Int) : Json := ofOption (n.map .int)

def ofNumber? (x : Option Binary64) : Json := ofOption (x.map .float)

def ofNat (n : Nat) : Json := .int n

def ofStrs (ss : List String) : Json := .arr (ss.map .str)

end Json

end RefData
