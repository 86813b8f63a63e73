import RefData.Catalog.Defect
import RefData.Catalog.ObjectType
import RefData.Catalog.Parameter
import RefData.Catalog.Section
import RefData.Catalog.Source
set_option autoImplicit false

namespace RefData

structure Hit where
  id : String
  title : String
  extra : Option String
  place : Section
  deriving DecidableEq

namespace Hit

def aliases : AliasTable where
  entity := "search-result"
  fields := [
    ("id", ["id", "ID"]),
    ("title", ["title", "name"]),
    ("extra", ["extra", "subtitle", "description"]),
    ("type", ["type", "target", "section"])]

def toJson (h : Hit) : Json :=
  Json.ofFields ([("id", .str h.id), ("title", .str h.title), ("type", h.place.toJson)]
    ++ (h.extra.map fun s => ("extra", Json.str s)).toList)

def ofJson? (v : Json) : Option Hit := do
  match ← v.slots? ["id", "title", "extra", "type"] 4 with
  | [id, title, extra, place] =>
    return {
      id := ← Json.required? Json.str? id
      title := ← Json.required? Json.str? title
      extra := ← Json.nullable? Json.str? extra
      place := ← Json.required? Section.ofJson? place }
  | _ => none

def ofRecord? (raw : Json) : Option Hit := do
  let record : Record := ⟨aliases, raw⟩
  let place ← (Section.parse (← record.text? "type")).toOption
  return {
    id := ← record.text? "id"
    title := ← record.text? "title"
    extra := record.text? "extra"
    place := place }

end Hit

namespace Search

def path : String := "/nsi/search"

def sectionLimit : Nat := 20

def totalLimit : Nat := 50

def holds (needle : String) (fields : List (Option String)) : Bool :=
  fields.any fun field =>
    field.any fun text => Text.occursIn needle.toList (Text.fold text).toList

def sourceFields (s : Source) : List (Option String) :=
  [some s.name, some s.documentNumber, s.author]

def sourceHit (s : Source) : Hit :=
  ⟨String.ofList (intText s.id), s.name, Json.nonempty? s.documentNumber, .sources⟩

def typeFields (t : ObjectType) : List (Option String) :=
  some t.name :: t.geometry.map Geometry.label :: t.componentNames.map some

def typeHit (t : ObjectType) : Hit := ⟨t.id, t.name, t.geometry.map Geometry.label, .types⟩

def componentFields (c : Component) : List (Option String) := [some c.name]

def componentHit (c : Component) : Hit := ⟨c.id, c.name, none, .components⟩

def parameterFields (p : Parameter) : List (Option String) :=
  [some p.name, p.code, p.unitName, p.sourceName]

def parameterHit (p : Parameter) : Hit := ⟨p.id, p.name, p.unitName.or p.code, .params⟩

def defectFields (d : Defect) : List (Option String) := [some d.name, some d.code, d.categoryName]

def defectHit (d : Defect) : Hit := ⟨d.id, d.name, some (d.categoryName.getD d.code), .defects⟩

def hitsOf {α : Type} (fields : α → List (Option String)) (hit : α → Hit) (needle : String)
    (items : List α) : List Hit :=
  (items.filter fun item => holds needle (fields item)).map hit

def inSources (needle : String) : Inquiry (List Hit) := do
  return hitsOf sourceFields sourceHit needle (← Source.load)

def inTypes (needle : String) : Inquiry (List Hit) := do
  return hitsOf typeFields typeHit needle (← ObjectType.fetchSnapshot).items

def inComponents (needle : String) : Inquiry (List Hit) := do
  return hitsOf componentFields componentHit needle (← Component.load)

def inParameters (needle : String) : Inquiry (List Hit) := do
  return hitsOf parameterFields parameterHit needle (← Parameter.fetchSnapshot).items

def inDefects (needle : String) : Inquiry (List Hit) := do
  return hitsOf defectFields defectHit needle (← Defect.fetchSnapshot).items

def aggregate (sections : List (List Hit)) : List Hit :=
  (sections.flatMap fun hits => hits.take sectionLimit).take totalLimit

def searchSections (query : String) : Fetch (List Hit) := do
  let needle := Text.fold query
  if needle.isEmpty then return []
  else
    let sources ← (inSources needle).orElse []
    let types ← (inTypes needle).orElse []
    let components ← (inComponents needle).orElse []
    let parameters ← (inParameters needle).orElse []
    let defects ← (inDefects needle).orElse []
    return aggregate [sources, types, components, parameters, defects]

def searchEndpoint (query : String) : Fetch (Option (List Hit)) := do
  match ← (Inquiry.call (.get path [("q", query)])).attempt with
  | .error _ => return none
  | .ok reply => return reply.records?.map fun records => records.filterMap Hit.ofRecord?

/-- Searches by the backend's own search, and section after section when there is none. A query
without a word finds nothing. -/
def search (text : String) : Fetch (List Hit) := do
  let query := Text.trim text
  if (Text.fold query).isEmpty then return []
  else
    match ← searchEndpoint query with
    | some hits => return hits
    | none => searchSections query

end Search

end RefData
