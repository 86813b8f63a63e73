import RefData.Catalog.Parameter
import RefData.Proofs.Collation
import RefData.Proofs.Exchange
import RefData.Proofs.Link.Stitch
set_option autoImplicit false

namespace RefData

namespace Parameter

open Backend

def measuresCall : Call := .rpc "data/loadMeasure" []
def collectionsCall : Call := .rpc "data/loadCollections" []
def parametersCall : Call := .rpc "data/loadParameters" []
def relationTypeCall : Call := .rpc "data/getIdRelTyp" [.str relationType]

def linkMethods : List String :=
  ["data/loadParamsComponent", "data/loadComponents", "data/loadParamsComponentLimits"]

def unlinked (p : Parameter) : Parameter :=
  { p with
    componentId := none
    componentName := none
    relationId := none
    limitMin := none
    limitMax := none
    limitComment := none }

def Snapshot.unlinked (s : Snapshot) : Snapshot := { s with items := s.items.map Parameter.unlinked }

theorem unlinked_ofRecord? (raw : Json) (directories : Directories) (links others : ParameterLinks) :
    (ofRecord? raw directories links).map unlinked =
      (ofRecord? raw directories others).map unlinked := by
  simp only [ofRecord?]
  cases (Record.mk aliases raw).text? "id" with
  | none => rfl
  | some id => cases (Record.mk aliases raw).text? "name" <;> rfl

-- A link reaches no name, so that it does not reach the order of the items either.
theorem Snapshot.unlinked_compose (measures collections parameters : List Json)
    (payload other : Link.Payload) :
    (Snapshot.compose measures collections parameters payload).unlinked =
      (Snapshot.compose measures collections parameters other).unlinked := by
  have named (p : Parameter) : p.unlinked.name = p.name := rfl
  simp only [Snapshot.unlinked, Snapshot.compose, Snapshot.mk.injEq, and_true]
  rw [Collation.map_sortByName named, Collation.map_sortByName named, List.map_filterMap,
    List.map_filterMap]
  congr 2
  funext raw
  exact unlinked_ofRecord? raw _ _ _

theorem linkFor_of_no_payload (parameters : List Json) (id name : String) (unit : Option String) :
    (ParameterLinks.stitch parameters {}).linkFor id name unit = {} := by
  have joined : Link.joined? parameters {} id = none := by
    unfold Link.joined?
    cases Link.lastClass? parameters id <;> rfl
  rw [ParameterLinks.linkFor, ParameterLinks.stitch_get?, joined]
  rfl

theorem unlinked_of_mem_compose {measures collections parameters : List Json} {item : Parameter}
    (mem : item ∈ (Snapshot.compose measures collections parameters {}).items) :
    item.unlinked = item := by
  obtain ⟨raw, _, read⟩ := List.mem_filterMap.1 ((Collation.sortByName_perm _ _).mem_iff.1 mem)
  simp only [ofRecord?, linkFor_of_no_payload, Option.bind_eq_bind, Option.bind_eq_some_iff] at read
  obtain ⟨id, _, name, _, made⟩ := read
  cases made
  rfl

def Unrelated (reply : Reply) : Prop := ∀ v, reply = .ok v → relationTypeId? v = none

def linksAfter (reply : Reply) : Fetch Link.Payload :=
  match reply.toOption.bind relationTypeId? with
  | none => return {}
  | some id => do
    let relations ← Inquiry.optionalRecords "data/loadParamsComponent" [.int id]
    let components ← Inquiry.optionalRecords "data/loadComponents" [.int 0]
    let limits ← Inquiry.optionalRecords "data/loadParamsComponentLimits" [.int id]
    return { relations := relations, components := components, limits := limits }

theorem loadLinks_eq : loadLinks = .ask relationTypeCall linksAfter := by
  change Fetch.ask relationTypeCall _ = _
  congr 1
  funext reply
  cases reply <;> rfl

theorem linksAfter_of_unrelated {reply : Reply} (unrelated : Unrelated reply) :
    linksAfter reply = .done {} := by
  cases reply with
  | error reason => rfl
  | ok v =>
    have none := unrelated v rfl
    simp only [linksAfter, Except.toOption, Option.bind_some, none]
    rfl

theorem loadLinks_of_unrelated {b : Backend}
    (unrelated : b.Answers loadLinks relationTypeCall Unrelated) :
    loadLinks.against b = {} ∧ loadLinks.calls b = [relationTypeCall] := by
  rw [loadLinks_eq] at unrelated ⊢
  have first : linksAfter (b.answer relationTypeCall b.state).1 = .done {} :=
    linksAfter_of_unrelated (unrelated _ List.mem_cons_self)
  simp only [Fetch.against, Fetch.calls, Fetch.run, first, and_self]

def linked (lists : List Json × List Json × List Json) : Inquiry Snapshot := do
  let payload ← loadLinks
  return .compose lists.1 lists.2.1 lists.2.2 payload

theorem fetchSnapshot_eq :
    fetchSnapshot = Inquiry.listing measuresCall >>= fun measures =>
      Inquiry.listing collectionsCall >>= fun collections =>
        Inquiry.listing parametersCall >>= fun parameters =>
          linked (measures, collections, parameters) := rfl

theorem linked_attempt (lists : List Json × List Json × List Json) :
    (linked lists).attempt = loadLinks.bind fun payload =>
      .done (.ok (.compose lists.1 lists.2.1 lists.2.2 payload)) :=
  Inquiry.attempt_lift_bind _ _

theorem linked_against (lists : List Json × List Json × List Json) (b : Backend) :
    (linked lists).attempt.against b =
      .ok (.compose lists.1 lists.2.1 lists.2.2 (loadLinks.against b)) := by
  rw [linked_attempt, Fetch.against_bind]
  rfl

theorem linked_of_unrelated {lists : List Json × List Json × List Json} {b : Backend}
    (unrelated : b.Answers (linked lists).attempt relationTypeCall Unrelated) :
    (linked lists).attempt.against b = .ok (.compose lists.1 lists.2.1 lists.2.2 {}) ∧
      (linked lists).attempt.calls b = [relationTypeCall] := by
  rw [linked_attempt] at unrelated
  obtain ⟨none, calls⟩ := loadLinks_of_unrelated unrelated.first
  rw [linked_against, none, linked_attempt, Fetch.calls_bind, calls]
  exact ⟨rfl, rfl⟩

structure Primary where
  measures : Except Failure (List Json)
  collections : Except Failure (List Json)
  parameters : Except Failure (List Json)

namespace Primary

structure GivenBy (primary : Primary) (b : Backend) : Prop where
  measures : b.Lists fetchSnapshot.attempt measuresCall primary.measures
  collections : b.Lists fetchSnapshot.attempt collectionsCall primary.collections
  parameters : b.Lists fetchSnapshot.attempt parametersCall primary.parameters

def failures (primary : Primary) : List Failure :=
  Failure.among [primary.measures, primary.collections, primary.parameters]

def all (primary : Primary) : Except Failure (List Json × List Json × List Json) := do
  let measures ← primary.measures
  let collections ← primary.collections
  let parameters ← primary.parameters
  return (measures, collections, parameters)

theorem all_eq_error_iff (primary : Primary) (reason : Failure) :
    primary.all = .error reason ↔ primary.failures.head? = some reason := by
  obtain ⟨measures, collections, parameters⟩ := primary
  cases measures <;> cases collections <;> cases parameters <;>
    simp [all, failures, bind, Except.bind, pure, Except.pure]

variable {primary : Primary} {b : Backend}

-- The three lists are asked for one by one, up to the first that is missing.
theorem GivenBy.continues (given : primary.GivenBy b) :
    ∃ asked later, asked ⊆ [measuresCall, collectionsCall, parametersCall] ∧
      b.Continues fetchSnapshot.attempt asked later
        (Inquiry.goOn primary.all linked).attempt := by
  obtain ⟨measures, collections, parameters⟩ := primary
  obtain ⟨first, second, third⟩ := given
  rw [fetchSnapshot_eq] at *
  obtain ⟨later, continues⟩ := first.continues
  cases measures with
  | error reason => exact ⟨_, later, by simp, continues⟩
  | ok measures =>
    have second := continues.answers second
    have third := continues.answers third
    obtain ⟨later, next⟩ := Lists.continues second
    cases collections with
    | error reason => exact ⟨_, later, by simp, continues.trans next⟩
    | ok collections =>
      obtain ⟨later, last⟩ := Lists.continues (next.answers third)
      cases parameters <;> exact ⟨_, later, by simp, (continues.trans next).trans last⟩

theorem GivenBy.fetched (given : primary.GivenBy b) :
    ∃ payload, fetchSnapshot.attempt.against b = primary.all.map fun lists =>
      .compose lists.1 lists.2.1 lists.2.2 payload := by
  obtain ⟨asked, later, _, continues⟩ := given.continues
  refine ⟨loadLinks.against later, ?_⟩
  rw [continues.value]
  cases primary.all with
  | error reason => rfl
  | ok lists => exact linked_against lists later

theorem GivenBy.fetched_of_unrelated (given : primary.GivenBy b)
    (unrelated : b.Answers fetchSnapshot.attempt relationTypeCall Unrelated) :
    (fetchSnapshot.attempt.against b = primary.all.map fun lists =>
      .compose lists.1 lists.2.1 lists.2.2 {}) ∧
    fetchSnapshot.attempt.calls b ⊆
      [measuresCall, collectionsCall, parametersCall, relationTypeCall] := by
  obtain ⟨asked, later, within, continues⟩ := given.continues
  have unrelated := continues.answers unrelated
  have before : asked ⊆ [measuresCall, collectionsCall, parametersCall, relationTypeCall] :=
    List.Subset.trans within (by simp)
  rw [continues.value, continues.calls, List.append_subset]
  cases all : primary.all with
  | error reason => exact ⟨rfl, before, List.nil_subset _⟩
  | ok lists =>
    rw [all] at unrelated
    obtain ⟨value, calls⟩ := linked_of_unrelated unrelated
    refine ⟨value, before, ?_⟩
    change (linked lists).attempt.calls later ⊆ _
    simp [calls]

end Primary

def wearPrimary : Primary where
  measures := .ok [.obj [("id", .int 1), ("name", .str "мм")]]
  collections := .ok []
  parameters := .ok [.obj [("id", .int 12), ("name", .str "Температура")],
    .obj [("id", .int 11), ("name", .str "Износ"), ("unitId", .int 1)]]

def wearReplies (relationType : Reply) : Call → Reply
  | .rpc "data/loadMeasure" _ => .ok (.arr [.obj [("id", .int 1), ("name", .str "мм")]])
  | .rpc "data/loadCollections" _ => .ok .null
  | .rpc "data/loadParameters" _ => .ok (.obj [("rows", .arr [
      .obj [("id", .int 12), ("name", .str "Температура")],
      .obj [("id", .int 11), ("name", .str "Износ"), ("unitId", .int 1)]])])
  | .rpc "data/getIdRelTyp" _ => relationType
  | .rpc "data/loadParamsComponent" _ => .ok (.arr [.obj [("name", .str "Износ, мм<=>Рельс")]])
  | _ => .error (.transport "refused")

end Parameter

end RefData
