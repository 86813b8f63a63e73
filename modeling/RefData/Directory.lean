import RefData.Collation
import RefData.Json.Decode
import RefData.Record.Alias
set_option autoImplicit false

namespace RefData

structure DirectoryOption where
  id : String
  name : String
  code : Option String := none
  description : Option String := none
  cls : Option String := none
  deriving DecidableEq, Inhabited

namespace DirectoryOption

/-- The entry of a raw record: its id, else the fallback; its name, else the id. -/
def ofRecord (raw : Json) (fallback : String) (idKeys nameKeys : List String) : DirectoryOption :=
  let fields := raw.fields?.getD []
  let id := (Pick.text? fields idKeys).getD fallback
  { id := id, name := (Pick.text? fields nameKeys).getD id }

def ofRecords (records : List Json) (fallback : String) (idKeys nameKeys : List String) :
    List DirectoryOption :=
  records.zipIdx.map fun (raw, index) =>
    ofRecord raw (fallback ++ "-" ++ String.ofList (natDigits index)) idKeys nameKeys

def sort (options : List DirectoryOption) : List DirectoryOption :=
  Collation.sortByName (·.name) options

def toJson (o : DirectoryOption) : Json :=
  let optional (key : String) (v : Option String) := (v.map fun s => (key, Json.str s)).toList
  Json.ofFields ([("id", .str o.id), ("name", .str o.name)] ++ optional "code" o.code
    ++ optional "description" o.description ++ optional "cls" o.cls)

def ofJson? (v : Json) : Option DirectoryOption := do
  match ← v.slots? ["id", "name", "code", "description", "cls"] 2 with
  | [id, name, code, description, cls] =>
    return {
      id := ← Json.required? Json.str? id
      name := ← Json.required? Json.str? name
      code := ← Json.nullable? Json.str? code
      description := ← Json.nullable? Json.str? description
      cls := ← Json.nullable? Json.str? cls }
  | _ => none

end DirectoryOption

abbrev Lookup := Dict String DirectoryOption

namespace Lookup

def ofOptions (options : List DirectoryOption) : Lookup :=
  Dict.ofList (options.map fun o => (o.id, o))

def nameOf? (l : Lookup) (id : Option String) : Option String :=
  (id.bind l.get?).map (·.name)

def resolve? (l : Lookup) (id inlineName : Option String) : Option String :=
  (l.nameOf? id).or inlineName

def toJson (l : Lookup) : Json := .obj (l.entries.map fun (id, o) => (id, o.toJson))

end Lookup

end RefData
