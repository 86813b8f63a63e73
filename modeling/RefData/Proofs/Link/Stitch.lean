import RefData.Link.Stitch
import RefData.Proofs.Dict
set_option autoImplicit false

namespace RefData

namespace Link

def field? (aliases : AliasTable) (field : String) (raw : Json) : Option String :=
  (Record.mk aliases raw).text? field

def lastClass? (parameters : List Json) (id : String) : Option String :=
  (parameters.findRev? fun raw => field? parameterClassAliases "id" raw = some id).map
    fun raw => (field? parameterClassAliases "cls" raw).getD ""

def lastRelation? (relations : List Json) (parameter : TypedId) : Option Json :=
  relations.findRev? fun raw =>
    field? relationAliases "parameterId" raw = some parameter.id ∧
      (field? relationAliases "parameterCls" raw).getD "" = parameter.cls ∧
      (field? relationAliases "componentId" raw).isSome

def destination? (relation : Json) : Option Target :=
  (field? relationAliases "componentId" relation).map fun component =>
    { component := ⟨component, (field? relationAliases "componentCls" relation).getD ""⟩
      relationId := field? relationAliases "relationId" relation }

def lastName? (components : List Json) (component : TypedId) : Option String :=
  (components.findRev? fun raw =>
    field? componentAliases "id" raw = some component.id ∧
      (field? componentAliases "cls" raw).getD "" = component.cls ∧
      (field? componentAliases "name" raw).isSome).bind (field? componentAliases "name")

def lastLimits? (limits : List Json) (relation : String) : Option Record :=
  (limits.findRev? fun raw => field? limitAliases "relationId" raw = some relation).map
    (Record.mk limitAliases)

def linkTo (payload : Payload) (target : Target) : ComponentLink :=
  let limits := target.relationId.bind (lastLimits? payload.limits)
  { componentId := some target.component.id
    componentCls := if target.component.cls = "" then none else some target.component.cls
    componentName := lastName? payload.components target.component
    relationId := target.relationId
    limitMin := limits.bind (·.number? "min")
    limitMax := limits.bind (·.number? "max")
    limitComment := limits.bind (·.text? "comment") }

def joined? (parameters : List Json) (payload : Payload) (id : String) : Option ComponentLink := do
  let cls ← lastClass? parameters id
  let relation ← lastRelation? payload.relations ⟨id, cls⟩
  let target ← destination? relation
  return linkTo payload target

theorem target?_eq_some_iff {raw : Json} {parameter : TypedId} {target : Target} :
    target? raw = some (parameter, target) ↔
      field? relationAliases "parameterId" raw = some parameter.id ∧
        (field? relationAliases "parameterCls" raw).getD "" = parameter.cls ∧
        destination? raw = some target := by
  obtain ⟨id, cls⟩ := parameter
  cases first : field? relationAliases "parameterId" raw <;>
    cases second : field? relationAliases "componentId" raw <;>
    simp_all [target?, destination?, field?, and_assoc]

theorem componentName?_eq_some_iff {raw : Json} {component : TypedId} {name : String} :
    componentName? raw = some (component, name) ↔
      field? componentAliases "id" raw = some component.id ∧
        (field? componentAliases "cls" raw).getD "" = component.cls ∧
        field? componentAliases "name" raw = some name := by
  obtain ⟨id, cls⟩ := component
  cases first : field? componentAliases "id" raw <;>
    cases second : field? componentAliases "name" raw <;>
    simp_all [componentName?, field?, and_assoc]

-- One lemma for each dictionary of the join: a lookup is a search from the end of its list.

theorem classes_get? (parameters : List Json) (id : String) :
    (Dict.ofList (parameters.filterMap parameterClass?)).get? id = lastClass? parameters id := by
  rw [lastClass?, Option.map_eq_bind]
  apply Dict.get?_ofList_read
  · intro raw cls
    rw [decide_eq_true_eq]
    simp [parameterClass?, field?, Option.bind_eq_some_iff]
  · simp

theorem targets_get? (relations : List Json) (parameter : TypedId) :
    (Dict.ofList (relations.filterMap target?)).get? parameter =
      (lastRelation? relations parameter).bind destination? := by
  apply Dict.get?_ofList_read
  · intro raw target
    have named : destination? raw = some target →
        (field? relationAliases "componentId" raw).isSome := by
      intro found
      simpa [destination?] using Option.isSome_of_eq_some found
    rw [target?_eq_some_iff, decide_eq_true_eq]
    grind
  · intro raw held
    rw [decide_eq_true_eq] at held
    simpa [destination?] using held.2.2

theorem names_get? (components : List Json) (component : TypedId) :
    (Dict.ofList (components.filterMap componentName?)).get? component =
      lastName? components component := by
  apply Dict.get?_ofList_read
  · intro raw name
    rw [componentName?_eq_some_iff, decide_eq_true_eq]
    grind
  · intro raw held
    rw [decide_eq_true_eq] at held
    exact held.2.2

theorem limits_get? (limits : List Json) (relation : String) :
    (Dict.ofList (limits.filterMap limits?)).get? relation =
      (lastLimits? limits relation).map fun record =>
        ⟨record.number? "min", record.number? "max", record.text? "comment"⟩ := by
  rw [lastLimits?, Option.map_map, Option.map_eq_bind]
  apply Dict.get?_ofList_read
  · intro raw range
    rw [decide_eq_true_eq]
    simp [limits?, field?, Option.bind_eq_some_iff]
  · simp

theorem link_eq_linkTo (payload : Payload) (target : Target) :
    target.link (Dict.ofList (payload.components.filterMap componentName?))
      (Dict.ofList (payload.limits.filterMap limits?)) = linkTo payload target := by
  have range : target.relationId.bind (Dict.ofList (payload.limits.filterMap limits?)).get? =
      (target.relationId.bind (lastLimits? payload.limits)).map fun record =>
        ⟨record.number? "min", record.number? "max", record.text? "comment"⟩ := by
    cases target.relationId with
    | none => rfl
    | some relation => exact limits_get? payload.limits relation
  simp only [Target.link, linkTo, names_get?, range, String.isEmpty_iff]
  cases target.relationId.bind (lastLimits? payload.limits) <;> rfl

end Link

namespace ParameterLinks

open Link

def stitchAlong (met : List (String × String)) (payload : Payload) : ParameterLinks :=
  let targets := Dict.ofList (payload.relations.filterMap target?)
  let names := Dict.ofList (payload.components.filterMap componentName?)
  let limits := Dict.ofList (payload.limits.filterMap limits?)
  let links := met.filterMap fun (id, cls) =>
    (targets.get? ⟨id, cls⟩).map fun target => (id, target.link names limits)
  { byParameter := Dict.ofList links
    compound := CompoundIndex.ofRelations (payload.relations.filterMap compound?) }

theorem stitch_eq_stitchAlong (parameters : List Json) (payload : Payload) :
    stitch parameters payload =
      stitchAlong (Dict.ofList (parameters.filterMap parameterClass?)).entries payload := rfl

theorem stitchAlong_get? (parameters : List Json) (payload : Payload)
    {met : List (String × String)}
    (perm : met.Perm (Dict.ofList (parameters.filterMap parameterClass?)).entries) (id : String) :
    (stitchAlong met payload).byParameter.get? id = joined? parameters payload id := by
  have probed := Dict.get?_ofList_filterMap _ perm (fun id cls =>
    ((lastRelation? payload.relations ⟨id, cls⟩).bind destination?).map (linkTo payload)) id
  simp only [Option.map_map, Function.comp_def, classes_get?] at probed
  simp only [stitchAlong, link_eq_linkTo, targets_get?]
  rw [probed]
  cases cls : lastClass? parameters id with
  | none => simp [joined?, cls]
  | some cls' =>
    cases relation : lastRelation? payload.relations ⟨id, cls'⟩ <;>
      simp [joined?, cls, relation, Option.map_eq_bind]

theorem stitchAlong_eq_stitch (parameters : List Json) (payload : Payload)
    {met : List (String × String)}
    (perm : met.Perm (Dict.ofList (parameters.filterMap parameterClass?)).entries) :
    stitchAlong met payload = stitch parameters payload := by
  have links : (stitchAlong met payload).byParameter = (stitch parameters payload).byParameter := by
    apply Dict.ext_get?
    intro id
    rw [stitch_eq_stitchAlong, stitchAlong_get? parameters payload perm,
      stitchAlong_get? parameters payload (.refl _)]
  exact congrArg (ParameterLinks.mk · (stitch parameters payload).compound) links

theorem stitch_get? (parameters : List Json) (payload : Payload) (id : String) :
    (stitch parameters payload).byParameter.get? id = joined? parameters payload id :=
  stitchAlong_get? parameters payload (.refl _) id

theorem mem_ids_of_joined {parameters : List Json} {payload : Payload} {id : String}
    (linked : (joined? parameters payload id).isSome) :
    id ∈ parameters.filterMap (field? parameterClassAliases "id") := by
  have classed : (lastClass? parameters id).isSome := by
    cases found : lastClass? parameters id with
    | none => simp [joined?, found] at linked
    | some cls => rfl
  rw [lastClass?, Option.isSome_map, List.findRev?_eq_find?_reverse, List.find?_isSome] at classed
  obtain ⟨raw, mem, reads⟩ := classed
  exact List.mem_filterMap.2 ⟨raw, List.mem_reverse.1 mem, of_decide_eq_true reads⟩

theorem linkedCount_stitch (parameters : List Json) (payload : Payload) :
    (stitch parameters payload).linkedCount =
      ((parameters.filterMap (field? parameterClassAliases "id")).toFinset.filter
        fun id => (joined? parameters payload id).isSome).card := by
  rw [linkedCount, Dict.size_eq_card]
  congr 1
  ext id
  rw [List.mem_toFinset, Dict.mem_keys, stitch_get?, Finset.mem_filter, List.mem_toFinset]
  exact ⟨fun linked => ⟨mem_ids_of_joined linked, linked⟩, And.right⟩

/-- The dictionaries of the join are a search from the end of each list: the link of a parameter,
how many distinct parameters have one, and that no order in which they are met matters. -/
theorem stitch_is_search_from_end (parameters : List Json) (payload : Payload) :
    (∀ id name unit, (stitch parameters payload).linkFor id name unit =
      (joined? parameters payload id).getD
        { componentName := (CompoundIndex.ofRelations
            (payload.relations.filterMap compound?)).component? name unit }) ∧
    (stitch parameters payload).linkedCount =
      ((parameters.filterMap (field? parameterClassAliases "id")).toFinset.filter
        fun id => (joined? parameters payload id).isSome).card ∧
    ∀ met : List (String × String),
      met.Perm (Dict.ofList (parameters.filterMap parameterClass?)).entries →
        stitchAlong met payload = stitch parameters payload := by
  refine ⟨?_, linkedCount_stitch parameters payload, fun met perm =>
    stitchAlong_eq_stitch parameters payload perm⟩
  intro id name unit
  rw [linkFor, stitch_get?]
  cases joined? parameters payload id <;> rfl

theorem stitch_meets_two_parameters :
    let parameters := [Json.obj [("cls", .int 7), ("id", .int 1)], .obj [("id", .int 2)],
      .obj [("cls", .int 8), ("id", .int 1)]]
    let relations := [Json.obj [("clsrom1", .int 8), ("idrom1", .int 1), ("idrom2", .str "c")],
      .obj [("clsrom1", .int 7), ("idrom1", .int 1), ("idrom2", .str "b")]]
    let met := [("2", ""), ("1", "8")]
    met.Perm (Dict.ofList (parameters.filterMap parameterClass?)).entries ∧
      stitchAlong met { relations := relations } =
        stitch parameters { relations := relations } := by
  have perm : [("2", ""), ("1", "8")].Perm (Dict.ofList
      ([Json.obj [("cls", .int 7), ("id", .int 1)], .obj [("id", .int 2)],
        .obj [("cls", .int 8), ("id", .int 1)]].filterMap parameterClass?)).entries := by
    decide +kernel
  exact ⟨perm, (stitch_is_search_from_end _ _).2.2 _ perm⟩

end ParameterLinks

end RefData
