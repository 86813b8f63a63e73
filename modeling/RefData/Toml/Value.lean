import RefData.Dict
set_option autoImplicit false

namespace RefData

inductive TableOrigin where
  | header
  | implied
  | dotted
  | inside
  deriving DecidableEq

/-- A value of a settings file. Numbers with a fraction and truth values are not told apart, nor is
one date or time from another. -/
inductive Toml where
  | text (s : String)
  | whole (n : Int)
  | scalar
  | moment
  | list (items : List Toml)
  | table (origin : TableOrigin) (fields : List (String × Toml))
  | rows (last : List (String × Toml)) (before : List (List (String × Toml)))

namespace Toml

abbrev Fields := List (String × Toml)

/-- Changes the table at the end of a path. Tables that are missing on the way are made; a list of
tables stands for its last row. A path of a value may not pass through a table with a header. -/
def alter? (dotted : Bool) (change : TableOrigin → Fields → Option Fields) :
    List String → TableOrigin → Fields → Option Fields
  | [], origin, fields => change origin fields
  | key :: path, _, fields => do
    let child ← match Assoc.get? key fields with
      | none =>
        let origin : TableOrigin := if dotted then .dotted else .implied
        (alter? dotted change path origin []).map (Toml.table origin)
      | some (.table origin inner) =>
        if origin = .inside ∨ (dotted ∧ origin = .header) then none
        else (alter? dotted change path origin inner).map (Toml.table origin)
      | some (.rows last before) =>
        (alter? dotted change path .header last).map fun last => Toml.rows last before
      | some _ => none
    return Assoc.insert key child fields

/-- Puts a value under a key that is still free. A dotted path must end in a table that only dotted
paths have made. -/
def put? (path : List String) (key : String) (value : Toml) (origin : TableOrigin)
    (fields : Fields) : Option Fields :=
  alter? true (fun origin fields =>
    if (origin == .dotted) == path.isEmpty then none
    else match Assoc.get? key fields with
      | some _ => none
      | none => some (Assoc.insert key value fields)) path origin fields

def openTable? (key : String) (fields : Fields) : Option Fields :=
  match Assoc.get? key fields with
  | none => some (Assoc.insert key (.table .header []) fields)
  | some (.table .implied inner) => some (Assoc.insert key (.table .header inner) fields)
  | some _ => none

def openRow? (key : String) (fields : Fields) : Option Fields :=
  match Assoc.get? key fields with
  | none => some (Assoc.insert key (.rows [] []) fields)
  | some (.rows last before) => some (Assoc.insert key (.rows [] (last :: before)) fields)
  | some _ => none

inductive Entry where
  | tableHeader (path : List String) (key : String)
  | rowHeader (path : List String) (key : String)
  | value (path : List String) (key : String) (value : Toml)

structure Document where
  fields : Fields := []
  current : List String := []

def Document.add? (d : Document) : Entry → Option Document
  | .tableHeader path key => do
    let fields ← alter? false (fun _ => openTable? key) path .header d.fields
    return ⟨fields, path ++ [key]⟩
  | .rowHeader path key => do
    let fields ← alter? false (fun _ => openRow? key) path .header d.fields
    return ⟨fields, path ++ [key]⟩
  | .value path key value => do
    let fields ← alter? false (put? path key value) d.current .header d.fields
    return { d with fields := fields }

def ofEntries? (entries : List Entry) : Option Fields :=
  (entries.foldlM Document.add? {}).map (·.fields)

def ofPairs? (pairs : List (List String × String × Toml)) : Option Toml :=
  (pairs.foldlM (fun fields (path, key, value) => put? path key value .inside fields) []).map
    (Toml.table .inside)

end Toml

end RefData
