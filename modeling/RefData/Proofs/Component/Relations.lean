import Mathlib.Logic.Function.Basic
import RefData.Proofs.Component.Naming
set_option autoImplicit false

namespace RefData

namespace ComponentInput

def relationIds (input : ComponentInput) : RelationKind → List String
  | .objectType => input.objectTypeIds
  | .parameter => input.parameterIds
  | .defect => input.defectIds

-- What is left of submitted ids: each one once, without white space around it, none of them blank,
-- in the order in which they first occur.
structure Clean (ids kept : List String) : Prop where
  nodup : kept.Nodup
  unpadded : ∀ id ∈ kept, Text.Unpadded id.toList
  members : ∀ id, id ∈ kept ↔ id ≠ "" ∧ id ∈ ids.map Text.trim
  order : kept.Pairwise fun a b => (ids.map Text.trim).idxOf a < (ids.map Text.trim).idxOf b

def keep (kept : List String) (id : String) : List String :=
  if Text.trim id = "" ∨ Text.trim id ∈ kept then kept else kept ++ [Text.trim id]

theorem cleanIds_eq (ids : List String) : cleanIds ids = ids.foldl keep [] := by
  have step : (fun (kept : List String) id => if !(Text.trim id).isEmpty then
      if kept.contains (Text.trim id) then kept else kept ++ [Text.trim id] else kept) = keep := by
    funext kept id
    by_cases blank : Text.trim id = "" <;> simp [keep, blank]
  rw [cleanIds, List.foldl_filter, List.foldl_map, step]

theorem clean_nil : Clean [] [] := ⟨by simp, by simp, by simp, by simp⟩

theorem Clean.keep {ids kept : List String} (clean : Clean ids kept) (id : String) :
    Clean (ids ++ [id]) (keep kept id) := by
  have place {a : String} (mem : a ∈ kept) :
      ((ids ++ [id]).map Text.trim).idxOf a = (ids.map Text.trim).idxOf a := by
    rw [List.map_append, List.idxOf_append_of_mem ((clean.members a).1 mem).2]
  have order : kept.Pairwise fun a b =>
      ((ids ++ [id]).map Text.trim).idxOf a < ((ids ++ [id]).map Text.trim).idxOf b :=
    clean.order.imp_of_mem fun {a b} memA memB less => by rwa [place memA, place memB]
  unfold ComponentInput.keep
  split
  next passed =>
    refine ⟨clean.nodup, clean.unpadded, fun a => ?_, order⟩
    have known := clean.members (Text.trim id)
    rw [clean.members a, List.map_append, List.mem_append, List.map_singleton, List.mem_singleton]
    grind
  next taken =>
    obtain ⟨filled, new⟩ := not_or.1 taken
    have unseen : Text.trim id ∉ ids.map Text.trim := fun seen =>
      new ((clean.members _).2 ⟨filled, seen⟩)
    refine ⟨?_, ?_, fun a => ?_, ?_⟩
    · exact List.nodup_append.2 ⟨clean.nodup, by simp, by grind⟩
    · intro a mem
      rcases List.mem_append.1 mem with known | here
      · exact clean.unpadded a known
      · rw [List.mem_singleton.1 here, Text.trim, String.toList_ofList]
        exact Text.unpadded_trimChars id.toList
    · rw [List.mem_append, clean.members a, List.map_append, List.mem_append, List.map_singleton,
        List.mem_singleton]
      grind
    · refine List.pairwise_append.2 ⟨order, by simp, fun a memA b memB => ?_⟩
      rw [List.mem_singleton.1 memB, place memA, List.map_append,
        List.idxOf_append_of_notMem unseen]
      have known := List.idxOf_lt_length_of_mem ((clean.members a).1 memA).2
      omega

theorem clean_cleanIds (ids : List String) : Clean ids (cleanIds ids) := by
  -- Along the fold, what is kept so far is what is left of the ids so far.
  suffices ∀ done kept, Clean done kept → Clean (done ++ ids) (ids.foldl keep kept) by
    rw [cleanIds_eq]
    exact this [] [] clean_nil
  induction ids with
  | nil =>
    intro done kept clean
    simpa using clean
  | cons id rest ih =>
    intro done kept clean
    rw [List.foldl_cons, List.append_cons]
    exact ih (done ++ [id]) (keep kept id) (clean.keep id)

theorem relationIds_apply (input : ComponentInput) (c : StoredComponent) (kind : RelationKind) :
    (input.apply c).relationIds kind = cleanIds (input.relationIds kind) := by
  cases kind <;> rfl

end ComponentInput

-- Ids of directories are integers in decimal. This is what tells the texts of relations apart: in
-- such a text, only the first character can be a dash before the one that ends the id.

def leadingNumber (cs : List Char) : List Char := cs.take 1 ++ (cs.drop 1).takeWhile (· != '-')

theorem intText_eq_cons (n : Int) : ∃ c digits, intText n = c :: digits ∧ '-' ∉ digits := by
  have noDash {m : Nat} : '-' ∉ natDigits m := fun mem =>
    absurd (isDigit_of_mem_natDigits mem) (by decide)
  unfold intText
  split
  · exact ⟨'-', _, rfl, noDash⟩
  · cases digits : natDigits n.natAbs with
    | nil => exact absurd digits Nat.toDigits_ne_nil
    | cons c rest =>
      exact ⟨c, rest, rfl, fun mem => noDash (digits ▸ List.mem_cons_of_mem c mem)⟩

theorem leadingNumber_intText (n : Int) (rest : List Char) :
    leadingNumber (intText n ++ '-' :: rest) = intText n := by
  obtain ⟨c, digits, text, noDash⟩ := intText_eq_cons n
  have all : digits.takeWhile (· != '-') = digits := by
    rw [List.takeWhile_eq_self_iff]
    intro d mem
    rw [bne_iff_ne]
    rintro rfl
    exact noDash mem
  simp [text, leadingNumber, Text.takeWhile_append_cons, all]

namespace Register

variable {r : Register} {option : DirectoryOption}

def Numeric (r : Register) : Prop :=
  ∀ id o, r.entries.get? id = some o → o.id = id ∧ ∃ n, id = String.ofList (intText n)

theorem numeric_empty : ({} : Register).Numeric := by
  simp [Numeric]

theorem Numeric.insert (numeric : r.Numeric) {n : Int}
    (number : option.id = String.ofList (intText n)) : (r.insert option).Numeric := by
  intro id o found
  rw [get?_insert] at found
  split at found
  next same =>
    cases found
    exact ⟨same.symm, n, same.trans number⟩
  next => exact numeric id o found

theorem Numeric.ensure (numeric : r.Numeric) (placeholder name : String) :
    (r.ensure placeholder name).2.Numeric := by
  rcases r.ensure_cases placeholder name with
    ⟨_, -, ensured⟩ | ⟨-, -, ensured⟩ | ⟨-, -, ensured⟩ <;> rw [ensured]
  exacts [numeric, Numeric.insert (r := { r with lastId := r.lastId + 1 }) numeric rfl, numeric]

theorem numeric_ofEntries (cls : String) {entries : List (String × String)} (numbers : List Int)
    (ids : entries.map Prod.fst = numbers.map fun n => String.ofList (intText n)) :
    (ofEntries cls entries).Numeric := by
  have number {e : String × String} (mem : e ∈ entries) :
      ∃ n, e.1 = String.ofList (intText n) := by
    have listed := List.mem_map_of_mem (f := Prod.fst) mem
    rw [ids] at listed
    obtain ⟨n, -, same⟩ := List.mem_map.1 listed
    exact ⟨n, same.symm⟩
  refine List.foldlRecOn entries _ numeric_empty fun r numeric e mem => ?_
  obtain ⟨n, same⟩ := number mem
  exact numeric.insert same

end Register

def LoadedComponent.relations (c : LoadedComponent) : RelationKind → List ComponentRelation
  | .objectType => c.objectTypes
  | .parameter => c.parameters
  | .defect => c.defects

namespace ComponentStore

variable {s t : ComponentStore} {kind : RelationKind}

def Numeric (s : ComponentStore) : Prop := ∀ kind, (s.register kind).Numeric

theorem Change.register (change : Change s t) :
    t.register = s.register ∨ ∃ kind name, t = (s.ensure kind name).2 := by
  cases change with
  | kept => exact .inl rfl
  | merged listed => exact .inl (register_merge s listed)
  | saved input c => exact .inl (s.writes_put (input.apply c)).register
  | removed id => exact .inl (register_remove s id)
  | ensured kind name => exact .inr ⟨kind, name, rfl⟩

theorem Numeric.change (change : Change s t) (numeric : s.Numeric) : t.Numeric := by
  intro kind
  rcases change.register with same | ⟨asked, name, rfl⟩
  · rw [same]
    exact numeric kind
  · rw [register_ensure]
    split
    · exact (numeric asked).ensure _ _
    · exact numeric kind

theorem numeric_empty : empty.Numeric := by
  intro kind
  cases kind <;> exact Register.numeric_empty

theorem numeric_seeded : seeded.Numeric := by
  intro kind
  cases kind with
  | objectType => exact Register.numeric_ofEntries _ [1, 2, 3] (by decide)
  | parameter => exact Register.numeric_ofEntries _ [101, 102, 103] (by decide)
  | defect => exact Register.numeric_ofEntries _ [201, 202, 203] (by decide)

theorem id_relations (numeric : s.Numeric) (kind : RelationKind) (ids : List String) :
    (s.relations kind ids).map (·.id) = ids.filter fun id => (s.entry? kind id).isSome := by
  induction ids with
  | nil => rfl
  | cons id rest ih =>
    cases found : s.entry? kind id with
    | none => simpa [relations, found] using ih
    | some o => simpa [relations, found, ComponentRelation.ofOption, (numeric kind id o found).1]
        using ih

theorem of_mem_relations (numeric : s.Numeric) {ids : List String} {r : ComponentRelation}
    (mem : r ∈ s.relations kind ids) :
    ∃ o, s.entry? kind r.id = some o ∧ r = ComponentRelation.ofOption o := by
  obtain ⟨o, listed, rfl⟩ := List.mem_map.1 mem
  obtain ⟨id, -, found⟩ := List.mem_filterMap.1 listed
  obtain ⟨rfl, -⟩ := numeric kind id o found
  exact ⟨o, found, rfl⟩

theorem leadingNumber_relationId (numeric : s.Numeric) {r : ComponentRelation}
    {ids : List String} (mem : r ∈ s.relations kind ids) :
    leadingNumber r.relationId.toList = r.id.toList := by
  obtain ⟨o, found, rfl⟩ := of_mem_relations numeric mem
  obtain ⟨-, n, number⟩ := numeric kind _ o found
  change o.id = _ at number
  simp [ComponentRelation.ofOption, number, leadingNumber_intText]

theorem nodup_relationId (numeric : s.Numeric) {ids : List String} (distinct : ids.Nodup) :
    ((s.relations kind ids).map (·.relationId)).Nodup := by
  have distinctIds : ((s.relations kind ids).map (·.id)).Nodup := by
    rw [id_relations numeric]
    exact distinct.filter _
  rw [List.nodup_iff_pairwise_ne, List.pairwise_map] at distinctIds ⊢
  refine distinctIds.imp_of_mem fun {a b} memA memB other same => other ?_
  have ids := congrArg (fun text => leadingNumber text.toList) same
  simp only [leadingNumber_relationId numeric memA, leadingNumber_relationId numeric memB] at ids
  exact String.toList_inj.1 ids

def relationIdsOf (s : ComponentStore) (id : Int) (kind : RelationKind) : List String :=
  ((s.get? id).map (·.relationIds kind)).getD []

theorem Writes.relationIdsOf {c : StoredComponent} (writes : Writes s c t) (id : Int)
    (kind : RelationKind) : t.relationIdsOf id kind =
      if id = c.id then c.relationIds kind else s.relationIdsOf id kind := by
  rw [ComponentStore.relationIdsOf, writes.get?]
  split <;> rfl

theorem relationIdsOf_remove (s : ComponentStore) (removed id : Int) (kind : RelationKind) :
    (s.remove removed).relationIdsOf id kind =
      if id = removed then [] else s.relationIdsOf id kind := by
  rw [relationIdsOf, get?_remove]
  split <;> rfl

theorem relationIdsOf_merge (s : ComponentStore) (listed : List Component.Created) :
    (s.merge listed).relationIdsOf = s.relationIdsOf := by
  funext id kind
  rw [relationIdsOf, relationIdsOf, get?_merge]
  cases last : lastListed? listed id with
  | none => rfl
  | some c =>
    obtain ⟨-, rfl⟩ := lastListed?_id last
    cases stored : s.get? c.id with
    | none => cases kind <;> simp [taken, stored, StoredComponent.relationIds]
    | some existing => simp [(taken_keeps stored).2]

theorem relationIdsOf_seeded (id : Int) (kind : RelationKind) :
    seeded.relationIdsOf id kind = ComponentInput.cleanIds (seeded.relationIdsOf id kind) := by
  have all : ∀ c ∈ seeded.all,
      c.relationIds kind = ComponentInput.cleanIds (c.relationIds kind) := by
    cases kind <;> decide
  rw [relationIdsOf]
  cases stored : seeded.get? id with
  | none => rfl
  | some c => exact all c ((Dict.mem_values _ _).2 ⟨id, stored⟩)

theorem relations_loaded (s : ComponentStore) (c : StoredComponent) (kind : RelationKind) :
    (s.loaded c).relations kind = s.relations kind (c.relationIds kind) := by
  cases kind <;> rfl

end ComponentStore

namespace Repository

open ComponentStore

theorem snapshot_shows (b : Backend) (s : ComponentStore) :
    (snapshot.against b s).1 = (snapshot.against b s).2.snapshot := by
  rw [snapshot_against]
  cases Component.load.attempt.against b <;> rfl

end Repository

abbrev Submissions := Int → RelationKind → List String

namespace Operation

open ComponentStore

def submits (op : Operation) (b : Backend) (s : ComponentStore) (earlier : Submissions) :
    Submissions :=
  let submitting (made : Option LoadedComponent) (input : ComponentInput) :=
    match made with
    | some shown => Function.update earlier shown.id input.relationIds
    | none => earlier
  match op with
  | .create input => submitting ((Repository.create input).against b s).1 input
  | .update id input => submitting ((Repository.update id input).against b s).1 input
  | .delete id => Function.update earlier id fun _ => []
  | .snapshot => earlier
  | .ensure _ _ => earlier

def shows (op : Operation) (b : Backend) (s : ComponentStore) : List LoadedComponent :=
  match op with
  | .snapshot => (Repository.snapshot.against b s).1.items
  | .create input => ((Repository.create input).against b s).1.toList
  | .update id input => ((Repository.update id input).against b s).1.toList
  | .delete _ => []
  | .ensure _ _ => []

variable {s t : ComponentStore} {submitted : Submissions}

theorem relationIdsOf_put
    (filed : ∀ id kind, s.relationIdsOf id kind = ComponentInput.cleanIds (submitted id kind))
    (input : ComponentInput) (c : StoredComponent) (id : Int) (kind : RelationKind) :
    (s.put (input.apply c)).relationIdsOf id kind = ComponentInput.cleanIds
      (Function.update submitted (s.loaded (input.apply c)).id input.relationIds id kind) := by
  rw [(s.writes_put _).relationIdsOf, Function.update_apply, input.relationIds_apply, loaded_id]
  split
  · rfl
  · exact filed id kind

theorem relationIdsOf_after (op : Operation) (b : Backend)
    (filed : ∀ id kind, s.relationIdsOf id kind = ComponentInput.cleanIds (submitted id kind)) :
    ∀ id kind, (op.after b s).relationIdsOf id kind =
      ComponentInput.cleanIds (op.submits b s submitted id kind) := by
  cases op with
  | snapshot =>
    have same : (after .snapshot b s).relationIdsOf = s.relationIdsOf := by
      rw [after, Repository.snapshot_against]
      cases Component.load.attempt.against b with
      | ok listed => exact relationIdsOf_merge s (mergeable listed)
      | error reason => rfl
    rw [same, submits]
    exact filed
  | create input =>
    simp only [submits, after]
    rcases Repository.create_cases input b s with ⟨c, made⟩ | ⟨-, made⟩ <;> simp only [made]
    exacts [relationIdsOf_put filed input c, filed]
  | update id input =>
    simp only [submits, after]
    rcases Repository.update_cases id input b s with ⟨c, made⟩ | ⟨-, made⟩ <;> simp only [made]
    exacts [relationIdsOf_put filed input c, filed]
  | delete removed =>
    intro id kind
    rw [after, Repository.delete_against, relationIdsOf_remove, submits, Function.update_apply]
    split
    · rfl
    · exact filed id kind
  | ensure asked name =>
    intro id kind
    have same : (after (.ensure asked name) b s).get? id = s.get? id := get?_ensure s asked name id
    rw [relationIdsOf, same]
    exact filed id kind

theorem of_mem_shows {op : Operation} {b : Backend} {shown : LoadedComponent} (keyed : s.Keyed)
    (mem : shown ∈ op.shows b s) : ∃ c, (op.after b s).get? shown.id = some c ∧
      shown = (op.after b s).loaded c := by
  have edited {c : StoredComponent} (answered : shown ∈ (some (s.loaded c)).toList) :
      ∃ c', (s.put c).get? shown.id = some c' ∧ shown = (s.put c).loaded c' := by
    obtain rfl := List.mem_singleton.1 answered
    refine ⟨c, ?_⟩
    rw [loaded_id, get?_put, if_pos rfl, loaded_congr (s.writes_put c).register]
    exact ⟨rfl, rfl⟩
  cases op with
  | snapshot =>
    have keyedAfter := keyed.change (after_change .snapshot b s)
    rw [shows, Repository.snapshot_shows] at mem
    obtain ⟨c, stored, rfl⟩ := List.mem_map.1 ((Collation.sortByName_perm _ _).mem_iff.1 mem)
    obtain ⟨id, found⟩ := (Dict.mem_values _ _).1 stored
    have own := keyedAfter id c found
    subst own
    exact ⟨c, found, rfl⟩
  | create input =>
    rw [shows] at mem
    rw [after]
    rcases Repository.create_cases input b s with ⟨c, made⟩ | ⟨-, made⟩ <;> rw [made] at mem ⊢
    exacts [edited mem, by cases mem]
  | update id input =>
    rw [shows] at mem
    rw [after]
    rcases Repository.update_cases id input b s with ⟨c, made⟩ | ⟨-, made⟩ <;> rw [made] at mem ⊢
    exacts [edited mem, by cases mem]
  | delete id => cases mem
  | ensure kind name => cases mem

end Operation

-- A run with what was submitted in it. What a demonstration starts with counts as submitted.
inductive Filing : ComponentStore → Submissions → Prop
  | empty : Filing .empty fun _ _ => []
  | seeded : Filing .seeded ComponentStore.seeded.relationIdsOf
  | step {s : ComponentStore} {submitted : Submissions} (run : Filing s submitted) (op : Operation)
      (b : Backend) : Filing (op.after b s) (op.submits b s submitted)

namespace Filing

open ComponentStore

variable {s : ComponentStore} {submitted : Submissions}

theorem keyed (run : Filing s submitted) : s.Keyed := by
  induction run with
  | empty => exact keyed_of_components_empty rfl
  | seeded => exact keyed_seeded
  | step before op b ih => exact ih.change (op.after_change b _)

theorem numeric (run : Filing s submitted) : s.Numeric := by
  induction run with
  | empty => exact numeric_empty
  | seeded => exact numeric_seeded
  | step before op b ih => exact ih.change (op.after_change b _)

theorem relationIdsOf_eq (run : Filing s submitted) : ∀ id kind,
    s.relationIdsOf id kind = ComponentInput.cleanIds (submitted id kind) := by
  induction run with
  | empty => exact fun _ _ => rfl
  | seeded => exact relationIdsOf_seeded
  | step before op b ih => exact op.relationIdsOf_after b ih

theorem clean (run : Filing s submitted) {id : Int} {c : StoredComponent}
    (stored : s.get? id = some c) (kind : RelationKind) :
    ComponentInput.Clean (submitted id kind) (c.relationIds kind) := by
  have lists := run.relationIdsOf_eq id kind
  rw [relationIdsOf, stored, Option.map_some, Option.getD_some] at lists
  rw [lists]
  exact ComponentInput.clean_cleanIds _

/-- In every run, the ids that a stored component relates to are those last submitted for it,
cleaned up. What is returned or shown of a component relates to those of them that are in the
directory, in their order, each under the id it was looked up by and with a text of its own. -/
theorem relation_lists_stay_clean (run : Filing s submitted) :
    (∀ id c, s.get? id = some c → ∀ kind,
      ComponentInput.Clean (submitted id kind) (c.relationIds kind)) ∧
    ∀ (op : Operation) (b : Backend), ∀ shown ∈ op.shows b s,
      let after := op.after b s
      ∃ c, after.get? shown.id = some c ∧ ∀ kind,
        ComponentInput.Clean (op.submits b s submitted shown.id kind) (c.relationIds kind) ∧
        (shown.relations kind).map (·.id) =
          (c.relationIds kind).filter (fun id => (after.entry? kind id).isSome) ∧
        (∀ r ∈ shown.relations kind, ∃ o, after.entry? kind r.id = some o ∧
          r.name = o.name ∧ r.cls = o.cls ∧ r.relationId = r.id ++ "-" ++ r.name) ∧
        ((shown.relations kind).map (·.relationId)).Nodup := by
  refine ⟨fun id c stored => run.clean stored, fun op b shown mem => ?_⟩
  have later := run.step op b
  obtain ⟨c, stored, loaded⟩ := Operation.of_mem_shows run.keyed mem
  refine ⟨c, stored, fun kind => ?_⟩
  have clean := later.clean stored kind
  have relations : shown.relations kind = (op.after b s).relations kind (c.relationIds kind) := by
    rw [loaded, relations_loaded]
  rw [relations]
  refine ⟨clean, id_relations later.numeric kind _, fun r listed => ?_,
    nodup_relationId later.numeric clean.nodup⟩
  obtain ⟨o, found, rfl⟩ := of_mem_relations later.numeric listed
  exact ⟨o, found, rfl, rfl, rfl⟩

theorem relation_lists_stay_clean_of_bolt :
    let refused := Backend.always (.error (.transport "refused"))
    let input : ComponentInput :=
      { name := "Болт", parameterIds := [" 102", " ", "9", "101", "102 "] }
    let making := Operation.create input
    Filing .seeded ComponentStore.seeded.relationIdsOf ∧
      (making.after refused .seeded).get? 4 =
        some { id := 4, cls := 1027, name := "Болт", parameterIds := ["102", "9", "101"] } ∧
      ComponentInput.Clean input.parameterIds ["102", "9", "101"] ∧
      ∃ shown ∈ making.shows refused .seeded,
        (shown.relations .parameter).map (·.id) = ["102", "101"] ∧
        ((shown.relations .parameter).map (·.relationId)).Nodup := by
  intro refused input making
  have stored : (making.after refused .seeded).get? 4 =
      some { id := 4, cls := 1027, name := "Болт", parameterIds := ["102", "9", "101"] } := by
    decide
  obtain ⟨c, found, relations⟩ := (relation_lists_stay_clean .seeded).2 making refused _
    List.mem_cons_self
  obtain ⟨clean, ids, -, distinct⟩ := relations .parameter
  have same : c = _ := Option.some.inj (found.symm.trans stored)
  subst same
  exact ⟨.seeded, stored, clean, _, List.mem_cons_self, ids.trans (by decide), distinct⟩

end Filing

end RefData
