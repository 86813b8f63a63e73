import RefData.Directory
import RefData.Exchange.Fetch
import RefData.Link.Stitch
set_option autoImplicit false

namespace RefData

structure Parameter where
  id : String
  name : String
  code : Option String
  valueType : String
  unitId : Option String
  unitName : Option String
  sourceId : Option String
  sourceName : Option String
  minValue : Option Binary64
  maxValue : Option Binary64
  isRequired : Bool
  note : Option String
  componentId : Option String
  componentName : Option String
  relationId : Option String
  limitMin : Option Binary64
  limitMax : Option Binary64
  limitComment : Option String

namespace Parameter

def aliases : AliasTable where
  entity := "parameter"
  fields := [
    ("id", ["id", "parameterId", "parameter_id"]),
    ("name", ["name", "parameterName", "parameter_name", "title"]),
    ("code", ["code", "parameterCode", "mnemo", "mnemonic"]),
    ("valueType", ["valueType", "value_type", "type", "dataType", "data_type"]),
    ("unitId", ["unitId", "unit_id", "measureId", "measure_id", "unit", "measure"]),
    ("unitName", ["unitName", "unit_name", "measureName", "measure_name"]),
    ("sourceId",
      ["sourceId", "source_id", "collectionId", "collection_id", "collection", "source"]),
    ("sourceName", ["sourceName", "source_name", "collectionName", "collection_name"]),
    ("minValue", ["minValue", "min_value", "min"]),
    ("maxValue", ["maxValue", "max_value", "max"]),
    ("isRequired", ["isRequired", "required", "is_required", "mandatory"]),
    ("note", ["note", "comment", "description", "remark"])]

def unitIdKeys : List String := ["id", "measureId", "measure_id", "unitId", "unit_id"]

def unitNameKeys : List String :=
  ["name", "shortName", "short_name", "fullName", "full_name", "caption", "title"]

def sourceIdKeys : List String := ["id", "collectionId", "collection_id", "sourceId", "source_id"]

def sourceNameKeys : List String := ["name", "caption", "title", "description"]

structure Directories where
  units : Lookup := Dict.empty
  sources : Lookup := Dict.empty

def ofRecord? (raw : Json) (directories : Directories) (links : ParameterLinks) :
    Option Parameter := do
  let record : Record := ⟨aliases, raw⟩
  let id ← record.text? "id"
  let name ← record.text? "name"
  let unitId := record.text? "unitId"
  let sourceId := record.text? "sourceId"
  let unitName := directories.units.resolve? unitId (record.text? "unitName")
  let link := links.linkFor id name unitName
  return {
    id := id
    name := name
    code := record.text? "code"
    valueType := (record.text? "valueType").getD "string"
    unitId := unitId
    unitName := unitName
    sourceId := sourceId
    sourceName := directories.sources.resolve? sourceId (record.text? "sourceName")
    minValue := record.number? "minValue"
    maxValue := record.number? "maxValue"
    isRequired := record.flag "isRequired"
    note := record.text? "note"
    componentId := link.componentId
    componentName := link.componentName
    relationId := link.relationId
    limitMin := link.limitMin
    limitMax := link.limitMax
    limitComment := link.limitComment }

def toJson (p : Parameter) : Json :=
  Json.ofFields [
    ("id", .str p.id),
    ("name", .str p.name),
    ("code", .ofStr? p.code),
    ("valueType", .str p.valueType),
    ("unitId", .ofStr? p.unitId),
    ("unitName", .ofStr? p.unitName),
    ("sourceId", .ofStr? p.sourceId),
    ("sourceName", .ofStr? p.sourceName),
    ("minValue", .ofNumber? p.minValue),
    ("maxValue", .ofNumber? p.maxValue),
    ("isRequired", .bool p.isRequired),
    ("note", .ofStr? p.note),
    ("componentId", .ofStr? p.componentId),
    ("componentName", .ofStr? p.componentName),
    ("relationId", .ofStr? p.relationId),
    ("limitMin", .ofNumber? p.limitMin),
    ("limitMax", .ofNumber? p.limitMax),
    ("limitComment", .ofStr? p.limitComment)]

def relationType : String := "RT_ParamsComponent"

def relationTypeId? (reply : Json) : Option Int :=
  reply.integer?.or (((reply.firstRecord?.getD reply).field? "id").bind Json.integer?)

/-- The lists that relate parameters to components. Without the id of the relation type none of
them is asked for, and each of them may fail on its own. -/
def loadLinks : Fetch Link.Payload := do
  match ← (Inquiry.rpc "data/getIdRelTyp" [.str relationType]).attempt with
  | .error _ => return {}
  | .ok reply =>
    match relationTypeId? reply with
    | none => return {}
    | some id =>
      let relations ← Inquiry.optionalRecords "data/loadParamsComponent" [.int id]
      let components ← Inquiry.optionalRecords "data/loadComponents" [.int 0]
      let limits ← Inquiry.optionalRecords "data/loadParamsComponentLimits" [.int id]
      return { relations := relations, components := components, limits := limits }

structure Snapshot where
  items : List Parameter
  units : List DirectoryOption
  sources : List DirectoryOption
  directories : Directories

def Snapshot.compose (measures collections parameters : List Json) (payload : Link.Payload) :
    Snapshot :=
  let units := DirectoryOption.ofRecords measures "unit" unitIdKeys unitNameKeys
  let sources := DirectoryOption.ofRecords collections "source" sourceIdKeys sourceNameKeys
  let directories : Directories := ⟨Lookup.ofOptions units, Lookup.ofOptions sources⟩
  let links := ParameterLinks.stitch parameters payload
  { items := Collation.sortByName (·.name)
      (parameters.filterMap fun raw => ofRecord? raw directories links)
    units := DirectoryOption.sort units
    sources := DirectoryOption.sort sources
    directories := directories }

/-- Units, sources and parameters must be there; the links to components may be missing. -/
def fetchSnapshot : Inquiry Snapshot := do
  let measures ← Inquiry.rpcRecords "data/loadMeasure" []
  let collections ← Inquiry.rpcRecords "data/loadCollections" []
  let parameters ← Inquiry.rpcRecords "data/loadParameters" []
  let payload ← loadLinks
  return .compose measures collections parameters payload

namespace Snapshot

def toJson (s : Snapshot) : Json :=
  Json.ofFields [
    ("items", .arr (s.items.map Parameter.toJson)),
    ("units", .arr (s.units.map DirectoryOption.toJson)),
    ("sources", .arr (s.sources.map DirectoryOption.toJson)),
    ("unitDirectory", s.directories.units.toJson),
    ("sourceDirectory", s.directories.sources.toJson)]

end Snapshot

end Parameter

end RefData
