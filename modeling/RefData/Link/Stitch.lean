import RefData.Record.Alias
import RefData.Link.Compound
set_option autoImplicit false

namespace RefData

open Std

structure TypedId where
  id : String
  cls : String
  deriving DecidableEq

namespace TypedId

instance : Ord TypedId := ⟨compareLex (compareOn (·.id)) (compareOn (·.cls))⟩

instance : TransOrd TypedId := inferInstanceAs (TransCmp (compareLex _ _))

instance : LawfulEqOrd TypedId where
  compare_self {a} := by
    change compareLex (compareOn TypedId.id) (compareOn TypedId.cls) a a = .eq
    simp [compareLex, compareOn, ReflCmp.compare_self]
  eq_of_compare {a b} same := by
    change compareLex (compareOn TypedId.id) (compareOn TypedId.cls) a b = .eq at same
    simp only [compareLex, compareOn, Ordering.then_eq_eq] at same
    obtain ⟨id, cls⟩ := a
    obtain ⟨id', cls'⟩ := b
    have sameId : id = id' := LawfulEqCmp.eq_of_compare same.1
    have sameCls : cls = cls' := LawfulEqCmp.eq_of_compare same.2
    rw [sameId, sameCls]

end TypedId

namespace Link

def parameterClassAliases : AliasTable where
  entity := "parameter-class"
  fields := [
    ("id", ["id", "parameterId", "parameter_id"]),
    ("cls", ["cls", "CLS", "class", "typ"])]

def relationAliases : AliasTable where
  entity := "parameter-component-relation"
  fields := [
    ("parameterId", ["idrom1", "paramId", "parameterId"]),
    ("parameterCls", ["clsrom1", "paramCls", "parameterCls"]),
    ("componentId", ["idrom2", "componentId"]),
    ("componentCls", ["clsrom2", "componentCls"]),
    ("relationId", ["idro", "relationId", "id"]),
    ("compound", ["name", "namerom", "relationName"])]

def componentAliases : AliasTable where
  entity := "component"
  fields := [
    ("id", ["id", "ID", "number"]),
    ("cls", ["cls", "CLS"]),
    ("name", ["name", "NAME"])]

def limitAliases : AliasTable where
  entity := "relation-limit"
  fields := [
    ("relationId", ["relationId", "idro", "owner"]),
    ("min", ["limitMin", "ParamsLimitMin", "minValue"]),
    ("max", ["limitMax", "ParamsLimitMax", "maxValue"]),
    ("comment", ["comment", "ParamsComment", "cmt"])]

structure Target where
  component : TypedId
  relationId : Option String

structure Limits where
  min : Option Binary64 := none
  max : Option Binary64 := none
  comment : Option String := none

structure Payload where
  relations : List Json := []
  components : List Json := []
  limits : List Json := []

end Link

structure ComponentLink where
  componentId : Option String := none
  componentCls : Option String := none
  componentName : Option String := none
  relationId : Option String := none
  limitMin : Option Binary64 := none
  limitMax : Option Binary64 := none
  limitComment : Option String := none

namespace ComponentLink

def toJson (l : ComponentLink) : Json :=
  Json.ofFields [
    ("componentId", .ofStr? l.componentId),
    ("componentCls", .ofStr? l.componentCls),
    ("componentName", .ofStr? l.componentName),
    ("relationId", .ofStr? l.relationId),
    ("limitMin", .ofNumber? l.limitMin),
    ("limitMax", .ofNumber? l.limitMax),
    ("limitComment", .ofStr? l.limitComment)]

end ComponentLink

namespace Link

def parameterClass? (raw : Json) : Option (String × String) := do
  let record : Record := ⟨parameterClassAliases, raw⟩
  let id ← record.text? "id"
  return (id, (record.text? "cls").getD "")

def target? (raw : Json) : Option (TypedId × Target) := do
  let record : Record := ⟨relationAliases, raw⟩
  let parameter ← record.text? "parameterId"
  let component ← record.text? "componentId"
  return (⟨parameter, (record.text? "parameterCls").getD ""⟩,
    ⟨⟨component, (record.text? "componentCls").getD ""⟩, record.text? "relationId"⟩)

/-- A relation by names, read only from a record that lacks one of the ids. -/
def compound? (raw : Json) : Option CompoundRelation :=
  match target? raw with
  | some _ => none
  | none => ((⟨relationAliases, raw⟩ : Record).text? "compound").bind CompoundRelation.parse?

def componentName? (raw : Json) : Option (TypedId × String) := do
  let record : Record := ⟨componentAliases, raw⟩
  let id ← record.text? "id"
  let name ← record.text? "name"
  return (⟨id, (record.text? "cls").getD ""⟩, name)

def limits? (raw : Json) : Option (String × Limits) := do
  let record : Record := ⟨limitAliases, raw⟩
  let relation ← record.text? "relationId"
  return (relation, ⟨record.number? "min", record.number? "max", record.text? "comment"⟩)

def Target.link (t : Target) (names : Dict TypedId String) (limits : Dict String Limits) :
    ComponentLink :=
  let range := (t.relationId.bind limits.get?).getD {}
  { componentId := some t.component.id
    componentCls := if t.component.cls.isEmpty then none else some t.component.cls
    componentName := names.get? t.component
    relationId := t.relationId
    limitMin := range.min
    limitMax := range.max
    limitComment := range.comment }

end Link

structure ParameterLinks where
  byParameter : Dict String ComponentLink
  compound : CompoundIndex

namespace ParameterLinks

open Link

def stitch (parameters : List Json) (payload : Payload) : ParameterLinks :=
  let classes := Dict.ofList (parameters.filterMap parameterClass?)
  let targets := Dict.ofList (payload.relations.filterMap target?)
  let names := Dict.ofList (payload.components.filterMap componentName?)
  let limits := Dict.ofList (payload.limits.filterMap limits?)
  let links := classes.entries.filterMap fun (id, cls) =>
    (targets.get? ⟨id, cls⟩).map fun target => (id, target.link names limits)
  { byParameter := Dict.ofList links
    compound := CompoundIndex.ofRelations (payload.relations.filterMap compound?) }

/-- The link of a parameter: the one by id, else the component's name alone. -/
def linkFor (links : ParameterLinks) (id name : String) (unit : Option String) : ComponentLink :=
  match links.byParameter.get? id with
  | some link => link
  | none => { componentName := links.compound.component? name unit }

def linkedCount (links : ParameterLinks) : Nat := links.byParameter.size

end ParameterLinks

end RefData
