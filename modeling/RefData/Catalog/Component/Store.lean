import RefData.Catalog.Component
import RefData.Directory
set_option autoImplicit false

namespace RefData

inductive RelationKind where
  | objectType
  | parameter
  | defect
  deriving DecidableEq

namespace RelationKind

def all : List RelationKind := [.objectType, .parameter, .defect]

def placeholder : RelationKind → String
  | .objectType => "Новый тип объекта"
  | .parameter => "Новый параметр"
  | .defect => "Новый дефект"

end RelationKind

structure StoredComponent where
  id : Int
  cls : Int
  name : String
  objectTypeIds : List String := []
  parameterIds : List String := []
  defectIds : List String := []
  deriving DecidableEq

namespace StoredComponent

def relationIds (c : StoredComponent) : RelationKind → List String
  | .objectType => c.objectTypeIds
  | .parameter => c.parameterIds
  | .defect => c.defectIds

def toJson (c : StoredComponent) : Json :=
  Json.ofFields [
    ("id", .int c.id),
    ("cls", .int c.cls),
    ("name", .str c.name),
    ("objectTypeIds", .ofStrs c.objectTypeIds),
    ("parameterIds", .ofStrs c.parameterIds),
    ("defectIds", .ofStrs c.defectIds)]

end StoredComponent

/-- The number after the last one that was given out. Numbers have 64 bits, so the greatest one has
none after it. -/
def nextNumber? (last : Int) : Option Int := if last < maxInt64 then some (last + 1) else none

theorem nextNumber?_eq_some_iff {last number : Int} :
    nextNumber? last = some number ↔ last < maxInt64 ∧ last + 1 = number := by
  simp [nextNumber?]

theorem nextNumber?_eq_none_iff {last : Int} : nextNumber? last = none ↔ maxInt64 ≤ last := by
  simp [nextNumber?]

structure Register where
  entries : Lookup := Dict.empty
  lastId : Int := 0

namespace Register

def insert (r : Register) (option : DirectoryOption) : Register where
  entries := r.entries.insert option.id option
  lastId := match readInt64? option.id.toList with
    | some number => max r.lastId number
    | none => r.lastId

def find? (r : Register) (name : String) : Option DirectoryOption :=
  r.entries.values.find? fun option => Text.fold option.name == Text.fold name

/-- The entry of a name, made when it is missing and there is a number for it. -/
def ensure (r : Register) (placeholder name : String) : Option DirectoryOption × Register :=
  match r.find? name with
  | some option => (some option, r)
  | none =>
    match nextNumber? r.lastId with
    | none => (none, r)
    | some number =>
      let trimmed := Text.trim name
      let option : DirectoryOption := {
        id := String.ofList (intText number)
        name := if trimmed.isEmpty then placeholder else trimmed }
      (some option, insert { r with lastId := number } option)

def ofEntries (cls : String) (entries : List (String × String)) : Register :=
  entries.foldl (fun r (id, name) => r.insert { id := id, name := name, cls := some cls }) {}

end Register

structure ComponentStore where
  components : Dict Int StoredComponent := Dict.empty
  lastId : Int := 0
  objectTypes : Register := {}
  parameters : Register := {}
  defects : Register := {}

namespace ComponentStore

def register (s : ComponentStore) : RelationKind → Register
  | .objectType => s.objectTypes
  | .parameter => s.parameters
  | .defect => s.defects

def setRegister (s : ComponentStore) (kind : RelationKind) (r : Register) : ComponentStore :=
  match kind with
  | .objectType => { s with objectTypes := r }
  | .parameter => { s with parameters := r }
  | .defect => { s with defects := r }

def count (s : ComponentStore) : Nat := s.components.size

def get? (s : ComponentStore) (id : Int) : Option StoredComponent := s.components.get? id

def all (s : ComponentStore) : List StoredComponent := s.components.values

def allocate (s : ComponentStore) : Option Int × ComponentStore :=
  match nextNumber? s.lastId with
  | none => (none, s)
  | some id => (some id, { s with lastId := id })

def put (s : ComponentStore) (c : StoredComponent) : ComponentStore :=
  { s with components := s.components.insert c.id c, lastId := max s.lastId c.id }

def remove (s : ComponentStore) (id : Int) : ComponentStore :=
  { s with components := s.components.erase id }

/-- Takes over one listed component: a stored one keeps its relations. -/
def mergeOne (s : ComponentStore) (listed : Component.Created) : ComponentStore :=
  match s.get? listed.id with
  | some existing =>
    let changed := { existing with cls := listed.cls, name := listed.name }
    { s with components := s.components.insert listed.id changed }
  | none => s.put { id := listed.id, cls := listed.cls, name := listed.name }

def merge (s : ComponentStore) (listed : List Component.Created) : ComponentStore :=
  listed.foldl mergeOne s

def entry? (s : ComponentStore) (kind : RelationKind) (id : String) : Option DirectoryOption :=
  (s.register kind).entries.get? id

def directory (s : ComponentStore) (kind : RelationKind) : List DirectoryOption :=
  (s.register kind).entries.values

def ensure (s : ComponentStore) (kind : RelationKind) (name : String) :
    Option DirectoryOption × ComponentStore :=
  let (option, r) := (s.register kind).ensure kind.placeholder name
  (option, s.setRegister kind r)

def empty : ComponentStore := {}

def seeded : ComponentStore :=
  let directories : ComponentStore := {
    objectTypes := .ofEntries "1001" [("1", "ЖД путь"), ("2", "Стрелочный перевод"), ("3", "Мост")]
    parameters := .ofEntries "1041" [("101", "Температура"), ("102", "Влажность"), ("103", "Длина")]
    defects := .ofEntries "1061" [("201", "Коррозия"), ("202", "Трещина"), ("203", "Скол")] }
  let cls := Component.defaultCls
  [⟨1, cls, "Рельс", ["1"], ["101"], ["201"]⟩,
    ⟨2, cls, "Шпала", ["1", "2"], ["102"], ["202"]⟩,
    ⟨3, cls, "Опора", ["3"], ["103"], []⟩].foldl put directories

end ComponentStore

end RefData
