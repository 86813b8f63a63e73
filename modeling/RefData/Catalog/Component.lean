import RefData.Collation
import RefData.Exchange.Fetch
import RefData.Record.Alias
set_option autoImplicit false

namespace RefData

structure Component where
  id : String
  name : String
  deriving DecidableEq

namespace Component

def aliases : AliasTable where
  entity := "component"
  fields := [
    ("id", ["id", "ID", "number"]),
    ("name", ["name", "NAME"]),
    ("cls", ["cls", "CLS"])]

def defaultCls : Int := 1027

def ofRecord? (raw : Json) : Option Component := do
  let record : Record := ⟨aliases, raw⟩
  return { id := ← record.text? "id", name := ← record.text? "name" }

def toJson (c : Component) : Json := Json.ofFields [("id", .str c.id), ("name", .str c.name)]

def load : Inquiry (List Component) := do
  let records ← Inquiry.rpcRecords "data/loadComponents" [.int 0]
  return Collation.sortByName (·.name) (records.filterMap ofRecord?)

structure Created where
  id : Int
  cls : Int
  name : String
  deriving DecidableEq

namespace Created

/-- The record of a reply: its first record, or the reply itself when it is an object. -/
def record? (reply : Json) : Option Json :=
  reply.firstRecord?.or (if reply.fields?.isSome then some reply else none)

def ofReply (name : String) (reply : Json) : Except Failure Created := do
  let some raw := record? reply | .error (.decode "no created component in reply")
  let record : Record := ⟨aliases, raw⟩
  let some id := record.integer? "id" | .error (.decode "created component has no id")
  return {
    id := id
    cls := (record.integer? "cls").getD defaultCls
    name := (record.text? "name").getD name }

def toJson (c : Created) : Json :=
  Json.ofFields [("id", .int c.id), ("cls", .int c.cls), ("name", .str c.name)]

end Created

def creationBody (name : String) : Json :=
  Json.ofFields [("accessLevel", .int 1), ("cls", .int defaultCls), ("name", .str name)]

def create (name : String) : Inquiry Created := do
  let reply ← Inquiry.rpc "data/saveComponents" [.str "ins", creationBody name]
  ExceptT.mk (.done (Created.ofReply name reply))

def createListed (name : String) : Inquiry Component := do
  let created ← create name
  return { id := String.ofList (intText created.id), name := created.name }

end Component

end RefData
