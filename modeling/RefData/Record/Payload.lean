import RefData.Json.Value
set_option autoImplicit false

namespace RefData

def containerKeys : List String := ["records", "items", "data", "rows", "result"]

namespace Json

def listUnder? (fields : List (String × Json)) (keys : List String) : Option (List Json) :=
  keys.findSome? fun key => (Assoc.get? key fields).bind items?

/-- The records of a payload of known shape: a list, an object with a list under one of the
container keys, or such an object under `result`. -/
def records? : Json → Option (List Json)
  | .arr items => some items
  | .obj fields =>
    match listUnder? fields containerKeys with
    | some items => some items
    | none =>
      match Assoc.get? "result" fields with
      | some (.obj inner) => listUnder? inner (containerKeys.filter (· != "result"))
      | _ => none
  | _ => none

def records (v : Json) : List Json := v.records?.getD []

def firstRecord? (v : Json) : Option Json := v.records.head?

def hasRecords (v : Json) : Bool := v.records?.isSome

end Json

end RefData
