import RefData.Catalog.Component.Store
import RefData.Json.Decode
set_option autoImplicit false

namespace RefData

structure ComponentRelation where
  id : String
  name : String
  relationId : String
  cls : Option String
  deriving DecidableEq

structure LoadedComponent where
  id : Int
  cls : Int
  name : String
  objectTypes : List ComponentRelation
  parameters : List ComponentRelation
  defects : List ComponentRelation
  deriving DecidableEq

structure ComponentInput where
  name : String
  objectTypeIds : List String := []
  parameterIds : List String := []
  defectIds : List String := []
  cls : Option Int := none
  accessLevel : Option Int := none

structure ComponentsSnapshot where
  items : List LoadedComponent
  objectTypes : List DirectoryOption
  parameters : List DirectoryOption
  defects : List DirectoryOption

namespace ComponentRelation

def ofOption (o : DirectoryOption) : ComponentRelation where
  id := o.id
  name := o.name
  relationId := o.id ++ "-" ++ o.name
  cls := o.cls

def toJson (r : ComponentRelation) : Json :=
  Json.ofFields [
    ("id", .str r.id),
    ("name", .str r.name),
    ("relationId", .str r.relationId),
    ("cls", .ofStr? r.cls)]

end ComponentRelation

namespace LoadedComponent

def accessLevel : Int := 1

def toJson (c : LoadedComponent) : Json :=
  let relations (rs : List ComponentRelation) := Json.arr (rs.map ComponentRelation.toJson)
  Json.ofFields [
    ("id", .str (String.ofList (intText c.id))),
    ("cls", .str (String.ofList (intText c.cls))),
    ("name", .str c.name),
    ("objectTypes", relations c.objectTypes),
    ("parameters", relations c.parameters),
    ("defects", relations c.defects),
    ("details", Json.ofFields [
      ("id", .int c.id), ("cls", .int c.cls), ("accessLevel", .int accessLevel)])]

end LoadedComponent

namespace ComponentInput

def ofJson? (v : Json) : Option ComponentInput := do
  let names := ["name", "objectTypeIds", "parameterIds", "defectIds", "cls", "accessLevel"]
  match ← v.slots? names 1 with
  | [name, objectTypeIds, parameterIds, defectIds, cls, accessLevel] =>
    return {
      name := ← Json.required? Json.str? name
      objectTypeIds := ← Json.orDefault? [] (Json.listOf? Json.str?) objectTypeIds
      parameterIds := ← Json.orDefault? [] (Json.listOf? Json.str?) parameterIds
      defectIds := ← Json.orDefault? [] (Json.listOf? Json.str?) defectIds
      cls := ← Json.nullable? Json.int64? cls
      accessLevel := ← Json.nullable? Json.int64? accessLevel }
  | _ => none

/-- Trimmed ids, each once and none of them blank, in the order of their first occurrence. -/
def cleanIds (ids : List String) : List String :=
  ((ids.map Text.trim).filter fun id => !id.isEmpty).foldl
    (fun kept id => if kept.contains id then kept else kept ++ [id]) []

def nameFor (input : ComponentInput) (id : Int) : String :=
  let trimmed := Text.trim input.name
  if trimmed.isEmpty then "Компонент " ++ String.ofList (intText id) else trimmed

def apply (input : ComponentInput) (c : StoredComponent) : StoredComponent :=
  { c with
    name := input.nameFor c.id
    objectTypeIds := cleanIds input.objectTypeIds
    parameterIds := cleanIds input.parameterIds
    defectIds := cleanIds input.defectIds }

def proposedName (input : ComponentInput) : String :=
  let trimmed := Text.trim input.name
  if trimmed.isEmpty then "Новый компонент" else trimmed

def revisionBody (input : ComponentInput) (id cls : Int) : Json :=
  Json.ofFields [
    ("id", .int id),
    ("cls", .int (input.cls.getD cls)),
    ("accessLevel", .int (input.accessLevel.getD 1)),
    ("name", .str input.name)]

end ComponentInput

namespace ComponentStore

def relations (s : ComponentStore) (kind : RelationKind) (ids : List String) :
    List ComponentRelation :=
  (ids.filterMap (s.entry? kind)).map ComponentRelation.ofOption

def loaded (s : ComponentStore) (c : StoredComponent) : LoadedComponent where
  id := c.id
  cls := c.cls
  name := c.name
  objectTypes := s.relations .objectType c.objectTypeIds
  parameters := s.relations .parameter c.parameterIds
  defects := s.relations .defect c.defectIds

def snapshot (s : ComponentStore) : ComponentsSnapshot where
  items := Collation.sortByName (·.name) (s.all.map s.loaded)
  objectTypes := DirectoryOption.sort (s.directory .objectType)
  parameters := DirectoryOption.sort (s.directory .parameter)
  defects := DirectoryOption.sort (s.directory .defect)

def mergeable (listed : List Component) : List Component.Created :=
  listed.filterMap fun c =>
    (readInt64? c.id.toList).map fun id => ⟨id, Component.defaultCls, c.name⟩

def save (s : ComponentStore) (c : StoredComponent) : LoadedComponent × ComponentStore :=
  (s.loaded c, s.put c)

/-- Stores a new component under the id and class that the backend gave it, or under an id of the
store's own. When the store has no id left, nothing is stored. -/
def settle (s : ComponentStore) (created : Except Failure Component.Created)
    (input : ComponentInput) : Option LoadedComponent × ComponentStore :=
  match created with
  | .ok c => (s.save (input.apply { id := c.id, cls := c.cls, name := c.name })).map some id
  | .error _ =>
    match s.allocate with
    | (none, s) => (none, s)
    | (some number, s) =>
      (s.save (input.apply
        { id := number, cls := Component.defaultCls, name := input.proposedName })).map some id

end ComponentStore

namespace ComponentsSnapshot

def toJson (s : ComponentsSnapshot) : Json :=
  Json.ofFields [
    ("items", .arr (s.items.map LoadedComponent.toJson)),
    ("objectTypes", .arr (s.objectTypes.map DirectoryOption.toJson)),
    ("parameters", .arr (s.parameters.map DirectoryOption.toJson)),
    ("defects", .arr (s.defects.map DirectoryOption.toJson))]

end ComponentsSnapshot

/-- Work on a component store that also asks the backend. The backend is told of every change as
far as it can be reached; the store takes every change. -/
abbrev Repository := StateT ComponentStore Fetch

namespace Repository

def snapshot : Repository ComponentsSnapshot := do
  match ← Component.load.attempt with
  | .ok listed => modify (·.merge (ComponentStore.mergeable listed))
  | .error _ => pure ()
  return (← get).snapshot

/-- Creates a component, unless it has to have an id of the store's own and there is none left. -/
def create (input : ComponentInput) : Repository (Option LoadedComponent) := do
  let created ← (Component.create input.proposedName).attempt
  modifyGet (·.settle created input)

def update (id : Int) (input : ComponentInput) : Repository (Option LoadedComponent) := do
  match (← get).get? id with
  | none => create input
  | some existing =>
    let _ ← (Inquiry.rpc "data/saveComponents"
      [.str "upd", input.revisionBody id existing.cls]).attempt
    return some (← modifyGet (·.save (input.apply existing)))

def delete (id : Int) : Repository Unit := do
  modify (·.remove id)
  let _ ← (Inquiry.rpc "data/deleteComponents" [.int id]).attempt

def ensure (kind : RelationKind) (name : String) : Repository (Option DirectoryOption) :=
  modifyGet (·.ensure kind name)

end Repository

end RefData
