import RefData.Catalog.Component
import RefData.Directory
set_option autoImplicit false

namespace RefData

inductive Geometry where
  | point
  | line
  | polygon
  deriving DecidableEq

namespace Geometry

def all : List Geometry := [.point, .line, .polygon]

def name : Geometry → String
  | .point => "point"
  | .line => "line"
  | .polygon => "polygon"

def label : Geometry → String
  | .point => "точка"
  | .line => "линия"
  | .polygon => "полигон"

def spellings : Geometry → List String
  | .point => ["точка", "point"]
  | .line => ["линия", "line", "polyline"]
  | .polygon => ["полигон", "polygon", "area"]

def parse? (text : String) : Option Geometry :=
  let word := Text.fold text
  all.find? fun g => g.spellings.contains word

end Geometry

structure ObjectType where
  id : String
  name : String
  geometry : Option Geometry
  componentIds : List String
  componentNames : List String
  deriving DecidableEq

namespace ObjectType

def aliases : AliasTable where
  entity := "object-type"
  fields := [
    ("id", ["id", "ID", "number"]),
    ("name", ["name", "NAME", "title"]),
    ("geometry", ["geometry", "shape", "geom", "Shape"]),
    ("componentIds", ["componentIds", "component_ids", "components"]),
    ("componentNames", ["componentNames", "component_names", "component"])]

def itemText? (item : Json) : Option String :=
  item.text?.or ((item.field? "id").bind Json.text?)

def texts : Option Json → List String
  | some (.arr items) => items.filterMap itemText?
  | some (.str text) => ((Text.commaPieces text).map Text.trim).filter fun s => !s.isEmpty
  | some other => other.text?.toList
  | none => []

/-- The names of components: the directory's, else the name given at the same position, else the
id. Without ids the given names stand. -/
def namesFor (components : Lookup) (ids given : List String) : List String :=
  if ids.isEmpty then given
  else ids.zipIdx.map fun (id, index) =>
    ((components.nameOf? (some id)).or given[index]?).getD id

def ofRecord? (raw : Json) (components : Lookup) : Option ObjectType := do
  let record : Record := ⟨aliases, raw⟩
  let id ← record.text? "id"
  let name ← record.text? "name"
  let ids := texts (record.value? "componentIds")
  return {
    id := id
    name := name
    geometry := (record.text? "geometry").bind Geometry.parse?
    componentIds := ids
    componentNames := namesFor components ids (texts (record.value? "componentNames")) }

def toJson (t : ObjectType) : Json :=
  Json.ofFields [
    ("id", .str t.id),
    ("name", .str t.name),
    ("geometry", .ofStr? (t.geometry.map Geometry.name)),
    ("componentIds", .ofStrs t.componentIds),
    ("componentNames", .ofStrs t.componentNames)]

def componentOption? (raw : Json) : Option DirectoryOption := do
  let record : Record := ⟨Component.aliases, raw⟩
  let id ← record.text? "id"
  return { id := id, name := (record.text? "name").getD id, cls := record.text? "cls" }

structure Snapshot where
  items : List ObjectType
  components : List DirectoryOption
  directory : Lookup

def Snapshot.compose (types components : List Json) : Snapshot :=
  let options := components.filterMap componentOption?
  let directory := Lookup.ofOptions options
  { items := Collation.sortByName (·.name) (types.filterMap fun raw => ofRecord? raw directory)
    components := DirectoryOption.sort options
    directory := directory }

def fetchSnapshot : Inquiry Snapshot := do
  let types ← Inquiry.rpcRecords "data/loadObjectTypes" []
  let components ← Inquiry.rpcRecords "data/loadComponents" [.int 0]
  return .compose types components

def Snapshot.toJson (s : Snapshot) : Json :=
  Json.ofFields [
    ("items", .arr (s.items.map ObjectType.toJson)),
    ("components", .arr (s.components.map DirectoryOption.toJson)),
    ("componentDirectory", s.directory.toJson)]

end ObjectType

end RefData
