import RefData.Directory
import RefData.Exchange.Fetch
set_option autoImplicit false

namespace RefData

structure Defect where
  id : String
  code : String
  name : String
  categoryId : Option String
  categoryName : Option String
  statusId : Option String
  statusName : Option String
  severityId : Option String
  severityName : Option String
  description : Option String
  createdAt : Option String
  updatedAt : Option String
  deriving DecidableEq

namespace Defect

def path : String := "/object-defects"
def snapshotPath : String := "/object-defects/snapshot"
def categoriesPath : String := "/object-defect-categories"
def statusesPath : String := "/object-defect-statuses"
def severitiesPath : String := "/object-defect-severities"

def pathOf (id : String) : String := path ++ "/" ++ id

def aliases : AliasTable where
  entity := "defect"
  fields := [
    ("id", ["id", "ID"]),
    ("name", ["name", "defectName", "title"]),
    ("code", ["code"]),
    ("categoryId", ["categoryId", "category_id"]),
    ("categoryName", ["categoryName", "category_name"]),
    ("statusId", ["statusId", "status_id"]),
    ("statusName", ["statusName", "status_name"]),
    ("severityId", ["severityId", "severity_id"]),
    ("severityName", ["severityName", "severity_name"]),
    ("description", ["description"]),
    ("createdAt", ["createdAt", "created_at"]),
    ("updatedAt", ["updatedAt", "updated_at"])]

def directoryAliases : AliasTable where
  entity := "defect-directory"
  fields := [
    ("id", ["id", "ID", "code"]),
    ("name", ["name"]),
    ("code", ["code"]),
    ("description", ["description"])]

structure Directories where
  categories : Lookup := Dict.empty
  statuses : Lookup := Dict.empty
  severities : Lookup := Dict.empty

def directoryOption? (raw : Json) : Option DirectoryOption := do
  let record : Record := ⟨directoryAliases, raw⟩
  let id ← record.text? "id"
  return {
    id := id
    name := (record.text? "name").getD id
    code := record.text? "code"
    description := record.text? "description" }

def directoryOptions (records : List Json) : List DirectoryOption :=
  DirectoryOption.sort (records.filterMap directoryOption?)

/-- The defect of a raw record, if it has an id and a name; its code is the id when it has none. -/
def ofRecord? (raw : Json) (directories : Directories) : Option Defect := do
  let record : Record := ⟨aliases, raw⟩
  let id ← record.text? "id"
  let name ← record.text? "name"
  let categoryId := record.text? "categoryId"
  let statusId := record.text? "statusId"
  let severityId := record.text? "severityId"
  return {
    id := id
    code := ((record.value? "code").bind Json.code?).getD id
    name := name
    categoryId := categoryId
    categoryName := directories.categories.resolve? categoryId (record.text? "categoryName")
    statusId := statusId
    statusName := directories.statuses.resolve? statusId (record.text? "statusName")
    severityId := severityId
    severityName := directories.severities.resolve? severityId (record.text? "severityName")
    description := (record.value? "description").bind Json.lines?
    createdAt := record.text? "createdAt"
    updatedAt := record.text? "updatedAt" }

def toJson (d : Defect) : Json :=
  Json.ofFields [
    ("id", .str d.id),
    ("code", .str d.code),
    ("name", .str d.name),
    ("categoryId", .ofStr? d.categoryId),
    ("categoryName", .ofStr? d.categoryName),
    ("statusId", .ofStr? d.statusId),
    ("statusName", .ofStr? d.statusName),
    ("severityId", .ofStr? d.severityId),
    ("severityName", .ofStr? d.severityName),
    ("description", .ofStr? d.description),
    ("createdAt", .ofStr? d.createdAt),
    ("updatedAt", .ofStr? d.updatedAt)]

inductive Part where
  | defects
  | categories
  | statuses
  | severities
  deriving DecidableEq

namespace Part

def key : Part → String
  | .defects => "defects"
  | .categories => "categories"
  | .statuses => "statuses"
  | .severities => "severities"

def endpoint : Part → String
  | .defects => Defect.path
  | .categories => categoriesPath
  | .statuses => statusesPath
  | .severities => severitiesPath

def inCombined? (part : Part) (combined : Json) : Option (List Json) :=
  (combined.field? part.key).bind Json.records?

def fetch (part : Part) (combined : Json) : Inquiry (List Json) :=
  match part.inCombined? combined with
  | some records => pure records
  | none => Inquiry.restRecords part.endpoint

end Part

structure Snapshot where
  items : List Defect
  categories : List DirectoryOption
  statuses : List DirectoryOption
  severities : List DirectoryOption

def Snapshot.compose (defects categories statuses severities : List Json) : Snapshot :=
  let categories := directoryOptions categories
  let statuses := directoryOptions statuses
  let severities := directoryOptions severities
  let directories : Directories :=
    ⟨Lookup.ofOptions categories, Lookup.ofOptions statuses, Lookup.ofOptions severities⟩
  { items := Collation.sortByName (·.name) (defects.filterMap fun raw => ofRecord? raw directories)
    categories := categories
    statuses := statuses
    severities := severities }

/-- One reply may hold all lists; those that it lacks come from their own endpoints. -/
def fetchSnapshot : Inquiry Snapshot := do
  let combined ← (Inquiry.get snapshotPath).orElse .null
  let defects ← Part.defects.fetch combined
  let categories ← Part.categories.fetch combined
  let statuses ← Part.statuses.fetch combined
  let severities ← Part.severities.fetch combined
  return .compose defects categories statuses severities

namespace Snapshot

def toJson (s : Snapshot) : Json :=
  Json.ofFields [
    ("items", .arr (s.items.map Defect.toJson)),
    ("categories", .arr (s.categories.map DirectoryOption.toJson)),
    ("statuses", .arr (s.statuses.map DirectoryOption.toJson)),
    ("severities", .arr (s.severities.map DirectoryOption.toJson))]

end Snapshot

structure Draft where
  code : String := ""
  name : String := ""
  categoryId : Option String := none
  statusId : Option String := none
  severityId : Option String := none
  description : Option String := none

def Draft.toJson (d : Draft) : Json :=
  Json.ofFields [
    ("code", .str d.code),
    ("name", .str d.name),
    ("categoryId", .ofStr? d.categoryId),
    ("statusId", .ofStr? d.statusId),
    ("severityId", .ofStr? d.severityId),
    ("description", .ofStr? d.description)]

structure Patch where
  code : Option String := none
  name : Option String := none
  categoryId : Option String := none
  statusId : Option String := none
  severityId : Option String := none
  description : Option String := none

def Patch.toJson (p : Patch) : Json :=
  Json.ofFields ([
    ("code", p.code),
    ("name", p.name),
    ("categoryId", p.categoryId),
    ("statusId", p.statusId),
    ("severityId", p.severityId),
    ("description", p.description)].filterMap fun (key, value) =>
      value.map fun text => (key, Json.str text))

def ofReply (action : String) (reply : Json) : Inquiry Defect :=
  match ofRecord? reply {} with
  | some defect => pure defect
  | none => .fail (.decode (action ++ " defect reply has no id or name"))

def create (draft : Draft) : Inquiry Defect := do
  ofReply "created" (← .call (.post path draft.toJson))

def update (id : String) (patch : Patch) : Inquiry Defect := do
  ofReply "updated" (← .call (.put (pathOf id) patch.toJson))

def delete (id : String) : Inquiry Unit := do
  let _ ← Inquiry.call (.delete (pathOf id))

end Defect

end RefData
