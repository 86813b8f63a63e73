import RefData.Exchange.Fetch
import RefData.Record.Scalar
set_option autoImplicit false

namespace RefData

structure Measure where
  id : Int
  name : String
  deriving DecidableEq

namespace Measure

/-- The property whose values are the measures that can be chosen. -/
def propertyId : Int := 1105

def toJson (m : Measure) : Json :=
  Json.ofFields [("id", .int m.id), ("pv", .int m.id), ("name", .str m.name)]

def insertionBody (name : String) : Json :=
  Json.ofFields [("rec", Json.ofFields [
    ("id", .int 0),
    ("cod", .str ""),
    ("accessLevel", .int 1),
    ("kFromBase", .int 1),
    ("name", .str name),
    ("fullName", .str name),
    ("cmt", .null),
    ("parent", .null)])]

def insert (name : String) : Inquiry Json := do
  let reply ← Inquiry.call (.metaRpc "measure/insert" [insertionBody name])
  match reply.firstRecord?.filter (·.fields?.isSome) with
  | some record => return record
  | none => .fail (.decode "measure/insert returned no created record")

def loadValues : Inquiry (List Json) := do
  return (← Inquiry.call (.metaRpc "prop/loadPropValForUpd" [.int propertyId])).records

def saveSelected (selected : List Json) : Inquiry Unit := do
  let _ ← Inquiry.call (.metaRpc "prop/savePropRefVal" [.int propertyId, .arr selected])

def isChecked (record : Json) : Bool :=
  match record.field? "checked" with
  | some (.str s) => Text.lowerAscii (Text.trim s) == "on" || Json.flag (.str s)
  | some v => v.flag
  | none => false

def check : Json → Json
  | .obj fields => .obj (Assoc.insert "checked" (.bool true) fields)
  | other => other

def recordId? (record : Json) : Option Int := (record.field? "id").bind Json.integer?

def createdName (name : String) (created : Json) : String :=
  ((created.field? "name").bind Json.text?).getD name

def selectionEntry (id : Int) (name : String) (created : Json) : Json :=
  Json.ofFields [
    ("id", .int id),
    ("cod", (created.field? "cod").getD (.str "")),
    ("name", .str name),
    ("fullName", (created.field? "fullName").getD (.str name)),
    ("checked", .bool true),
    ("leaf", .bool true),
    ("level", .int 0),
    ("children", .null)]

/-- The values to choose: all that were chosen, and the created one after them. -/
def selection (id : Int) (name : String) (created : Json) (values : List Json) : List Json :=
  let added := match values.find? fun v => recordId? v == some id with
    | some listed => check listed
    | none => selectionEntry id name created
  values.filter isChecked ++ [added]

def create (text : String) : Inquiry Measure := do
  let name := Text.trim text
  if name.isEmpty then Inquiry.fail (.invalidInput "measure name is empty")
  else
    let created ← insert name
    match recordId? created with
    | none => Inquiry.fail (.decode "created measure has no id")
    | some id =>
      let name := createdName name created
      let values ← loadValues
      saveSelected (selection id name created values)
      return { id := id, name := name }

end Measure

end RefData
