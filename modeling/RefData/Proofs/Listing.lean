import RefData.Catalog.ObjectType
import RefData.Catalog.Source
import RefData.Proofs.Defect.Parts
import RefData.Proofs.Dialogue
import RefData.Proofs.Dict
import RefData.Proofs.Parameter.Enrichment
set_option autoImplicit false

namespace RefData

namespace Collation

-- The items are what came, in the order of the names; those of one name stand as they came.
structure Arranges {α : Type} (name : α → String) (came items : List α) : Prop where
  perm : items.Perm came
  ordered : items.Pairwise fun a b => compareNames (name a) (name b) ≠ .gt
  stable : ∀ n, items.filter (name · = n) = came.filter (name · = n)

theorem arranges_sortByName {α : Type} (name : α → String) (came : List α) :
    Arranges name came (sortByName name came) where
  perm := sortByName_perm name came
  ordered := (sortByName_sorted name came).imp fun le => bne_iff_ne.1 le
  stable := filter_name_sortByName name came

end Collation

variable {b : Backend} {said : Dialogue}

namespace Parameter

def unitOptions (said : Dialogue) : List DirectoryOption :=
  DirectoryOption.ofRecords (said.listed "data/loadMeasure") "unit" unitIdKeys unitNameKeys

def sourceOptions (said : Dialogue) : List DirectoryOption :=
  DirectoryOption.ofRecords (said.listed "data/loadCollections") "source" sourceIdKeys
    sourceNameKeys

def payload (said : Dialogue) : Link.Payload where
  relations := said.listed "data/loadParamsComponent"
  components := said.listed "data/loadComponents"
  limits := said.listed "data/loadParamsComponentLimits"

theorem of_linksAfter {reply : Reply} {links : Link.Payload}
    (gives : (linksAfter reply).Gives b links said) :
    links = payload said ∧ ∀ target ∉ linkMethods, said.listed target = [] := by
  unfold linksAfter at gives
  cases known : reply.toOption.bind relationTypeId? with
  | none =>
    rw [known] at gives
    obtain ⟨rfl, rfl⟩ := gives.of_done
    exact ⟨rfl, fun _ _ => rfl⟩
  | some id =>
    rw [known] at gives
    obtain ⟨relations, _, _, _, rfl, relationsDone, gives⟩ := gives.of_bind
    obtain ⟨components, _, _, _, rfl, componentsDone, gives⟩ := gives.of_bind
    obtain ⟨limits, _, _, _, rfl, limitsDone, gives⟩ := gives.of_bind
    obtain ⟨rfl, rfl⟩ := gives.of_done
    have first := relationsDone.of_optionalRecords
    have second := componentsDone.of_optionalRecords
    have third := limitsDone.of_optionalRecords
    refine ⟨by simp [payload, first, second, third], fun target other => ?_⟩
    simp only [linkMethods, List.mem_cons, List.not_mem_nil, or_false, not_or] at other
    simp [first, second, third, other]

theorem of_yields {snapshot : Snapshot} (yields : fetchSnapshot.Yields b snapshot said) :
    snapshot = .compose (said.listed "data/loadMeasure") (said.listed "data/loadCollections")
      (said.listed "data/loadParameters") (payload said) := by
  obtain ⟨measures, _, _, _, rfl, measuresDone, yields⟩ := yields.of_bind
  obtain ⟨collections, _, _, _, rfl, collectionsDone, yields⟩ := yields.of_bind
  obtain ⟨parameters, _, _, _, rfl, parametersDone, yields⟩ := yields.of_bind
  have linked : (linked (measures, collections, parameters)).Yields _ _ _ := yields
  rw [Inquiry.Yields, linked_attempt, loadLinks_eq] at linked
  obtain ⟨links, _, _, _, rfl, asked, done⟩ := linked.of_bind
  obtain ⟨same, rfl⟩ := done.of_done
  cases same
  obtain ⟨reply, _, _, rfl, gives⟩ := asked.of_ask
  obtain ⟨rfl, others⟩ := of_linksAfter gives
  simp [payload, measuresDone.of_rpcRecords, collectionsDone.of_rpcRecords,
    parametersDone.of_rpcRecords, relationTypeCall, Call.asks, linkMethods, others]

end Parameter

namespace Defect

namespace Part

def told (part : Part) (said : Dialogue) : List Json :=
  ((said.answered snapshotPath).findSome? part.inCombined?).getD (said.listed part.endpoint)

structure Fetched (part : Part) (combined : Json) (records : List Json) (said : Dialogue) :
    Prop where
  own : records = (part.inCombined? combined).getD (said.listed part.endpoint)
  others : ∀ other ≠ part, said.listed other.endpoint = []
  silent : said.answered snapshotPath = []

theorem asks_call (part : Part) (target : String) :
    part.call.asks target = (target == part.endpoint) := rfl

theorem snapshotPath_ne_endpoint (part : Part) : snapshotPath ≠ part.endpoint := by
  cases part <;> decide

theorem endpoint_injective {part other : Part} (same : part.endpoint = other.endpoint) :
    part = other :=
  call_injective (congrArg (Call.get · []) same)

theorem fetched_of_yields {part : Part} {combined : Json} {records : List Json}
    (yields : (part.fetch combined).Yields b records said) :
    part.Fetched combined records said := by
  unfold Part.fetch at yields
  cases found : part.inCombined? combined with
  | some records =>
    rw [found] at yields
    obtain ⟨rfl, rfl⟩ := yields.of_pure
    exact ⟨by simp [found], fun _ _ => rfl, rfl⟩
  | none =>
    rw [found] at yields
    have listing : (Inquiry.listing part.call).Yields b records said := yields
    obtain ⟨reply, rfl, rfl⟩ := listing.of_listing
    constructor
    · simp [found, asks_call, Except.map, Except.toOption]
    · intro other differs
      have apart : other.endpoint ≠ part.endpoint := fun same => differs (endpoint_injective same)
      simp [asks_call, apart]
    · simp [asks_call, snapshotPath_ne_endpoint]

end Part

theorem of_fetchParts {combined : Json} {snapshot : Snapshot}
    (yields : (fetchParts combined).Yields b snapshot said) :
    said.answered snapshotPath = [] ∧
      ∀ told : Part → List Json,
        (∀ part, told part = (part.inCombined? combined).getD (said.listed part.endpoint)) →
        snapshot = .compose (told .defects) (told .categories) (told .statuses)
          (told .severities) := by
  obtain ⟨defects, _, _, _, rfl, defectsDone, yields⟩ := yields.of_bind
  obtain ⟨categories, _, _, _, rfl, categoriesDone, yields⟩ := yields.of_bind
  obtain ⟨statuses, _, _, _, rfl, statusesDone, yields⟩ := yields.of_bind
  obtain ⟨severities, _, _, _, rfl, severitiesDone, yields⟩ := yields.of_bind
  obtain ⟨rfl, rfl⟩ := yields.of_pure
  have first := Part.fetched_of_yields defectsDone
  have second := Part.fetched_of_yields categoriesDone
  have third := Part.fetched_of_yields statusesDone
  have fourth := Part.fetched_of_yields severitiesDone
  constructor
  · simp [first.silent, second.silent, third.silent, fourth.silent]
  · intro told same
    simp [same, first.own, second.own, third.own, fourth.own, first.others, second.others,
      third.others, fourth.others]

theorem of_yields {snapshot : Snapshot} (yields : fetchSnapshot.Yields b snapshot said) :
    snapshot = .compose (Part.defects.told said) (Part.categories.told said)
      (Part.statuses.told said) (Part.severities.told said) := by
  rw [Inquiry.Yields, fetchSnapshot_attempt] at yields
  obtain ⟨combined, _, _, _, rfl, asked, parts⟩ := yields.of_bind
  obtain ⟨reply, _, _, rfl, answer⟩ := asked.of_ask
  obtain ⟨rfl, rfl⟩ := answer.of_done
  obtain ⟨silent, composed⟩ := of_fetchParts parts
  apply composed fun part => part.told _
  intro part
  have nothing : part.inCombined? .null = none := rfl
  have other : combinedCall.asks part.endpoint = false := by cases part <;> decide
  have combines : combinedCall.asks snapshotPath = true := by decide
  -- A combined reply that fails has no parts, as one that is null.
  cases reply <;> simp [Part.told, silent, nothing, other, combines, Except.toOption]

end Defect

namespace ObjectType

def componentOptions (said : Dialogue) : List DirectoryOption :=
  (said.listed "data/loadComponents").filterMap componentOption?

theorem of_yields {snapshot : Snapshot} (yields : fetchSnapshot.Yields b snapshot said) :
    snapshot =
      .compose (said.listed "data/loadObjectTypes") (said.listed "data/loadComponents") := by
  obtain ⟨types, _, _, _, rfl, typesDone, yields⟩ := yields.of_bind
  obtain ⟨components, _, _, _, rfl, componentsDone, yields⟩ := yields.of_bind
  obtain ⟨rfl, rfl⟩ := yields.of_pure
  simp [typesDone.of_rpcRecords, componentsDone.of_rpcRecords]

end ObjectType

theorem Source.of_yields {snapshot : Snapshot} (yields : fetchSnapshot.Yields b snapshot said) :
    snapshot =
      { items := Collation.sortByName (·.name)
          ((said.listed "data/loadSourceCollections").filterMap ofRecord?)
        departments := Collation.sortByName (·.name)
          ((said.listed "data/loadDepartments").filterMap Department.ofRecord?) } := by
  obtain ⟨items, _, _, _, rfl, itemsDone, yields⟩ := yields.of_bind
  obtain ⟨departments, _, _, _, rfl, departmentsDone, yields⟩ := yields.of_bind
  obtain ⟨rfl, rfl⟩ := yields.of_pure
  obtain ⟨sources, _, _, _, rfl, sourcesDone, itemsDone⟩ := itemsDone.of_bind
  obtain ⟨places, _, _, _, rfl, placesDone, departmentsDone⟩ := departmentsDone.of_bind
  obtain ⟨rfl, rfl⟩ := itemsDone.of_pure
  obtain ⟨rfl, rfl⟩ := departmentsDone.of_pure
  simp [sourcesDone.of_rpcRecords, placesDone.of_rpcRecords]

namespace Record

def Carries {α : Type} (r : Record) (field : String) (read : Json → Option α) : Prop :=
  ∃ key ∈ r.aliases.keys field, ∃ v, Assoc.get? key r.content = some v ∧ (read v).isSome

theorem carries_iff {α : Type} (r : Record) (field : String) (read : Json → Option α) :
    r.Carries field read ↔ (Pick.first? read r.content (r.aliases.keys field)).isSome := by
  simp only [Carries, Pick.first?, List.findSome?_isSome_iff, Option.isSome_bind,
    Option.any_eq_true]

end Record

-- A list of items in a snapshot: how it is fetched, and how its items are read of the records that
-- the run tells.
structure ItemList where
  Snapshot : Type
  Item : Type
  Id : Type
  fetch : Inquiry Snapshot
  items : Snapshot → List Item
  name : Item → String
  records : Dialogue → List Json
  read : Dialogue → Json → Option Item
  aliases : AliasTable
  id? : Json → Option Id

namespace ItemList

def parameters : ItemList where
  Snapshot := Parameter.Snapshot
  Item := Parameter
  Id := String
  fetch := Parameter.fetchSnapshot
  items := (·.items)
  name := (·.name)
  records := fun said => said.listed "data/loadParameters"
  read := fun said raw => Parameter.ofRecord? raw
    { units := .ofOptions (Parameter.unitOptions said)
      sources := .ofOptions (Parameter.sourceOptions said) }
    (.stitch (said.listed "data/loadParameters") (Parameter.payload said))
  aliases := Parameter.aliases
  id? := Json.text?

def defects : ItemList where
  Snapshot := Defect.Snapshot
  Item := Defect
  Id := String
  fetch := Defect.fetchSnapshot
  items := (·.items)
  name := (·.name)
  records := Defect.Part.defects.told
  read := fun said raw => Defect.ofRecord? raw
    { categories := .ofOptions (Defect.directoryOptions (Defect.Part.categories.told said))
      statuses := .ofOptions (Defect.directoryOptions (Defect.Part.statuses.told said))
      severities := .ofOptions (Defect.directoryOptions (Defect.Part.severities.told said)) }
  aliases := Defect.aliases
  id? := Json.text?

def objectTypes : ItemList where
  Snapshot := ObjectType.Snapshot
  Item := ObjectType
  Id := String
  fetch := ObjectType.fetchSnapshot
  items := (·.items)
  name := (·.name)
  records := fun said => said.listed "data/loadObjectTypes"
  read := fun said raw => ObjectType.ofRecord? raw (.ofOptions (ObjectType.componentOptions said))
  aliases := ObjectType.aliases
  id? := Json.text?

def sources : ItemList where
  Snapshot := Source.Snapshot
  Item := Source
  Id := Int
  fetch := Source.fetchSnapshot
  items := (·.items)
  name := (·.name)
  records := fun said => said.listed "data/loadSourceCollections"
  read := fun _ => Source.ofRecord?
  aliases := Source.aliases
  id? := Json.integer?

def departments : ItemList where
  Snapshot := Source.Snapshot
  Item := Department
  Id := Int
  fetch := Source.fetchSnapshot
  items := (·.departments)
  name := (·.name)
  records := fun said => said.listed "data/loadDepartments"
  read := fun _ => Department.ofRecord?
  aliases := Department.aliases
  id? := Json.integer?

def all : List ItemList := [parameters, defects, objectTypes, sources, departments]

def Usable (list : ItemList) (raw : Json) : Prop :=
  (Record.mk list.aliases raw).Carries "id" list.id? ∧
    (Record.mk list.aliases raw).Carries "name" Json.text?

def name? (list : ItemList) (raw : Json) : Option String := do
  let record : Record := ⟨list.aliases, raw⟩
  let _ ← Pick.first? list.id? record.content (record.aliases.keys "id")
  record.text? "name"

theorem name?_isSome_iff (list : ItemList) (raw : Json) :
    (list.name? raw).isSome ↔ list.Usable raw := by
  rw [Usable, Record.carries_iff, Record.carries_iff, name?, Record.text?, Pick.text?]
  cases Pick.first? list.id? (Record.mk list.aliases raw).content (list.aliases.keys "id") <;>
    simp

structure Lawful (list : ItemList) : Prop where
  named : ∀ said raw, (list.read said raw).map list.name = list.name? raw
  composed : ∀ {b snapshot said}, list.fetch.Yields b snapshot said →
    list.items snapshot =
      Collation.sortByName list.name ((list.records said).filterMap (list.read said))

theorem map_name_read {ι α : Type} {id? : Option ι} {name? : Option String}
    {make : ι → String → α} {name : α → String} (named : ∀ id n, name (make id n) = n) :
    (do return make (← id?) (← name?)).map name = (do let _ ← id?; name?) := by
  cases id? with
  | none => rfl
  | some id => cases name? <;> simp [named]

theorem parameters_lawful : parameters.Lawful where
  named said raw := map_name_read fun _ _ => rfl
  composed yields := by
    rw [Parameter.of_yields yields]
    rfl

theorem defects_lawful : defects.Lawful where
  named said raw := map_name_read fun _ _ => rfl
  composed yields := by
    rw [Defect.of_yields yields]
    rfl

theorem objectTypes_lawful : objectTypes.Lawful where
  named said raw := map_name_read fun _ _ => rfl
  composed yields := by
    rw [ObjectType.of_yields yields]
    rfl

theorem sources_lawful : sources.Lawful where
  named said raw := map_name_read fun _ _ => rfl
  composed yields := by
    rw [Source.of_yields yields]
    rfl

theorem departments_lawful : departments.Lawful where
  named said raw := map_name_read fun _ _ => rfl
  composed yields := by
    rw [Source.of_yields yields]
    rfl

theorem lawful_of_mem {list : ItemList} (mem : list ∈ all) : list.Lawful := by
  simp only [all, List.mem_cons, List.not_mem_nil, or_false] at mem
  rcases mem with rfl | rfl | rfl | rfl | rfl
  · exact parameters_lawful
  · exact defects_lawful
  · exact objectTypes_lawful
  · exact sources_lawful
  · exact departments_lawful

namespace Lawful

variable {list : ItemList} (lawful : list.Lawful)

include lawful

theorem read_isSome_iff (said : Dialogue) (raw : Json) :
    (list.read said raw).isSome ↔ list.Usable raw := by
  rw [← list.name?_isSome_iff, ← lawful.named said raw, Option.isSome_map]

theorem names {snapshot : list.Snapshot} (yields : list.fetch.Yields b snapshot said) :
    (list.items snapshot).map list.name =
      Collation.sortByName id ((list.records said).filterMap list.name?) := by
  have named : (fun raw => (list.read said raw).map list.name) = list.name? :=
    funext (lawful.named said)
  rw [lawful.composed yields, Collation.map_name_sortByName, List.map_filterMap, named]

end Lawful

end ItemList

namespace Lookup

theorem get?_ofOptions (options : List DirectoryOption) (id : String) :
    (ofOptions options).get? id = options.findRev? (·.id = id) := by
  rw [ofOptions, Dict.get?_ofList, List.findRev?_eq_find?_reverse, List.findRev?_eq_find?_reverse,
    ← List.map_reverse, List.find?_map, Option.map_map]
  exact Option.map_id'

theorem mem_keys_ofOptions (options : List DirectoryOption) (id : String) :
    id ∈ (ofOptions options).keys ↔ id ∈ options.map (·.id) := by
  rw [Dict.mem_keys, get?_ofOptions, List.findRev?_eq_find?_reverse]
  simp

end Lookup

structure OptionList where
  Snapshot : Type
  fetch : Inquiry Snapshot
  options : Snapshot → List DirectoryOption
  lookup : Snapshot → Lookup
  came : Dialogue → List DirectoryOption

namespace OptionList

def units : OptionList where
  Snapshot := Parameter.Snapshot
  fetch := Parameter.fetchSnapshot
  options := (·.units)
  lookup := (·.directories.units)
  came := Parameter.unitOptions

def sources : OptionList where
  Snapshot := Parameter.Snapshot
  fetch := Parameter.fetchSnapshot
  options := (·.sources)
  lookup := (·.directories.sources)
  came := Parameter.sourceOptions

def components : OptionList where
  Snapshot := ObjectType.Snapshot
  fetch := ObjectType.fetchSnapshot
  options := (·.components)
  lookup := (·.directory)
  came := ObjectType.componentOptions

def all : List OptionList := [units, sources, components]

theorem of_yields {list : OptionList} (mem : list ∈ all) {snapshot : list.Snapshot}
    (yields : list.fetch.Yields b snapshot said) :
    list.options snapshot = DirectoryOption.sort (list.came said) ∧
      list.lookup snapshot = .ofOptions (list.came said) := by
  simp only [all, List.mem_cons, List.not_mem_nil, or_false] at mem
  rcases mem with rfl | rfl | rfl
  · rw [Parameter.of_yields yields]
    exact ⟨rfl, rfl⟩
  · rw [Parameter.of_yields yields]
    exact ⟨rfl, rfl⟩
  · rw [ObjectType.of_yields yields]
    exact ⟨rfl, rfl⟩

end OptionList

def poles : List Json := [
  .obj [("id", .int 1), ("name", .str "Опора")],
  .obj [("number", .str "2"), ("title", .str "Ёлка")],
  .obj [("name", .str "Без номера")],
  .obj [("id", .int 3), ("name", .str "Опора")]]

def poleReplies (types : List Json) : Call → Reply
  | .rpc "data/loadObjectTypes" _ => .ok (.obj [("rows", .arr types)])
  | .rpc "data/loadComponents" _ => .ok (.arr [
      .obj [("id", .int 7), ("name", .str "Ригель")], .obj [("id", .int 7), ("name", .str "Болт")]])
  | _ => .error (.transport "refused")

end RefData
