import RefData.Calendar
import RefData.Collation
import RefData.Exchange.Fetch
import RefData.Record.Alias
set_option autoImplicit false

namespace RefData

structure Department where
  id : Int
  name : String
  deriving DecidableEq

structure Source where
  id : Int
  cls : Option Int
  name : String
  documentNumber : String
  approvalDate : Option String
  author : Option String
  startDate : Option String
  endDate : Option String
  idDocumentNumber : Option Int
  idApprovalDate : Option Int
  idAuthor : Option Int
  idStartDate : Option Int
  idEndDate : Option Int
  period : String
  deriving DecidableEq

namespace Department

def aliases : AliasTable where
  entity := "department"
  fields := [("id", ["id"]), ("name", ["name"])]

def ofRecord? (raw : Json) : Option Department := do
  let record : Record := ⟨aliases, raw⟩
  return { id := ← record.integer? "id", name := ← record.text? "name" }

def toJson (d : Department) : Json := Json.ofFields [("id", .int d.id), ("name", .str d.name)]

def load : Inquiry (List Department) := do
  let records ← Inquiry.rpcRecords "data/loadDepartments"
    [.str "Typ_Location", .str "Prop_LocationMulti"]
  return Collation.sortByName (·.name) (records.filterMap ofRecord?)

def parseIds (value : Option Json) : List Int :=
  match value with
  | some (.str text) =>
    (Text.commaPieces text).filterMap fun item => readInt64? (Text.trimChars item.toList)
  | _ => []

end Department

namespace Source

def aliases : AliasTable where
  entity := "source-collection"
  fields := [
    ("id", ["id"]),
    ("cls", ["cls"]),
    ("name", ["name"]),
    ("documentNumber", ["DocumentNumber"]),
    ("approvalDate", ["DocumentApprovalDate"]),
    ("author", ["DocumentAuthor"]),
    ("startDate", ["DocumentStartDate"]),
    ("endDate", ["DocumentEndDate"]),
    ("idDocumentNumber", ["idDocumentNumber"]),
    ("idApprovalDate", ["idDocumentApprovalDate"]),
    ("idAuthor", ["idDocumentAuthor"]),
    ("idStartDate", ["idDocumentStartDate"]),
    ("idEndDate", ["idDocumentEndDate"])]

def ofRecord? (raw : Json) : Option Source := do
  let record : Record := ⟨aliases, raw⟩
  let id ← record.integer? "id"
  let name ← record.text? "name"
  let startDate := record.text? "startDate"
  let endDate := record.text? "endDate"
  return {
    id := id
    cls := record.integer? "cls"
    name := name
    documentNumber := (record.text? "documentNumber").getD ""
    approvalDate := record.text? "approvalDate"
    author := record.text? "author"
    startDate := startDate
    endDate := endDate
    idDocumentNumber := record.integer? "idDocumentNumber"
    idApprovalDate := record.integer? "idApprovalDate"
    idAuthor := record.integer? "idAuthor"
    idStartDate := record.integer? "idStartDate"
    idEndDate := record.integer? "idEndDate"
    period := Period.label startDate endDate }

def toJson (s : Source) : Json :=
  Json.ofFields [
    ("id", .int s.id),
    ("cls", .ofInt? s.cls),
    ("name", .str s.name),
    ("documentNumber", .str s.documentNumber),
    ("approvalDate", .ofStr? s.approvalDate),
    ("author", .ofStr? s.author),
    ("startDate", .ofStr? s.startDate),
    ("endDate", .ofStr? s.endDate),
    ("idDocumentNumber", .ofInt? s.idDocumentNumber),
    ("idApprovalDate", .ofInt? s.idApprovalDate),
    ("idAuthor", .ofInt? s.idAuthor),
    ("idStartDate", .ofInt? s.idStartDate),
    ("idEndDate", .ofInt? s.idEndDate),
    ("period", .str s.period)]

def load : Inquiry (List Source) := do
  let records ← Inquiry.rpcRecords "data/loadSourceCollections" [.int 0]
  return Collation.sortByName (·.name) (records.filterMap ofRecord?)

structure Snapshot where
  items : List Source
  departments : List Department

def fetchSnapshot : Inquiry Snapshot := do
  let items ← load
  let departments ← Department.load
  return { items := items, departments := departments }

def Snapshot.toJson (s : Snapshot) : Json :=
  Json.ofFields [
    ("items", .arr (s.items.map Source.toJson)),
    ("departments", .arr (s.departments.map Department.toJson))]

structure Details where
  departmentIds : List Int := []
  files : List Json := []

namespace Details

def ofReply (reply : Json) : Details :=
  let files := ((reply.field? "files").bind (·.field? "records")).bind Json.items?
  { departmentIds := Department.parseIds (reply.field? "departments")
    files := (files.getD []).filter fun file => file.fields?.isSome }

def toJson (d : Details) : Json :=
  Json.ofFields [
    ("departmentIds", .arr (d.departmentIds.map .int)), ("files", .arr d.files)]

end Details

def loadDetails (id : Int) : Inquiry Details := do
  return .ofReply (← Inquiry.rpc "data/loadDepartmentsWithFile" [.int id])

structure Draft where
  accessLevel : Int := 0
  name : String := ""
  documentNumber : String := ""
  approvalDate : String := ""
  author : String := ""
  startDate : Option String := none
  endDate : Option String := none

def Draft.toJson (d : Draft) : Json :=
  Json.ofFields [
    ("accessLevel", .int d.accessLevel),
    ("name", .str d.name),
    ("DocumentNumber", .str d.documentNumber),
    ("DocumentApprovalDate", .str d.approvalDate),
    ("DocumentAuthor", .str d.author),
    ("DocumentStartDate", .ofStr? d.startDate),
    ("DocumentEndDate", .ofStr? d.endDate)]

structure Revision where
  accessLevel : Int := 0
  id : Int := 0
  cls : Int := 0
  name : String := ""
  idDocumentNumber : Option Int := none
  documentNumber : String := ""
  idApprovalDate : Option Int := none
  approvalDate : String := ""
  idAuthor : Option Int := none
  author : String := ""
  idStartDate : Option Int := none
  startDate : Option String := none
  idEndDate : Option Int := none
  endDate : Option String := none

namespace Revision

def toJson (r : Revision) : Json :=
  Json.ofFields [
    ("accessLevel", .int r.accessLevel),
    ("id", .int r.id),
    ("cls", .int r.cls),
    ("name", .str r.name),
    ("idDocumentNumber", .ofInt? r.idDocumentNumber),
    ("DocumentNumber", .str r.documentNumber),
    ("idDocumentApprovalDate", .ofInt? r.idApprovalDate),
    ("DocumentApprovalDate", .str r.approvalDate),
    ("idDocumentAuthor", .ofInt? r.idAuthor),
    ("DocumentAuthor", .str r.author),
    ("idDocumentStartDate", .ofInt? r.idStartDate),
    ("DocumentStartDate", .ofStr? r.startDate),
    ("idDocumentEndDate", .ofInt? r.idEndDate),
    ("DocumentEndDate", .ofStr? r.endDate)]

def toSource (r : Revision) : Source where
  id := r.id
  cls := some r.cls
  name := r.name
  documentNumber := r.documentNumber
  approvalDate := Json.nonempty? r.approvalDate
  author := Json.nonempty? r.author
  startDate := r.startDate
  endDate := r.endDate
  idDocumentNumber := r.idDocumentNumber
  idApprovalDate := r.idApprovalDate
  idAuthor := r.idAuthor
  idStartDate := r.idStartDate
  idEndDate := r.idEndDate
  period := Period.label r.startDate r.endDate

end Revision

def insert (draft : Draft) : Inquiry Source := do
  let reply ← Inquiry.rpc "data/saveSourceCollections" [.str "ins", draft.toJson]
  match (reply.firstRecord?.bind ofRecord?).or (ofRecord? reply) with
  | some source => return source
  | none => .fail (.decode "saved document has no id")

/-- The source that the reply to a revision shows, or the submitted one if it shows none. -/
def afterRevision (revision : Revision) (reply : Json) : Source :=
  ((ofRecord? reply).or (reply.firstRecord?.bind ofRecord?)).getD revision.toSource

def update (revision : Revision) : Inquiry Source := do
  return afterRevision revision
    (← Inquiry.rpc "data/saveSourceCollections" [.str "upd", revision.toJson])

def saveDepartments (id : Int) (departments : List Int) : Inquiry Unit := do
  let _ ← Inquiry.rpc "data/saveDepartment" [Json.ofFields [
    ("isObj", .int 1),
    ("metamodel", .str "dtj"),
    ("model", .str "nsidata"),
    ("obj", .int id),
    ("ids", .arr (departments.map .int))]]

def delete (id : Int) : Inquiry Unit := do
  let _ ← Inquiry.rpc "data/deleteOwnerWithProperties" [.int id, .int 1]

end Source

end RefData
