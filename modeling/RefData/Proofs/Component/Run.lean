import RefData.Catalog.Component.Repository
import RefData.Proofs.Dict
import RefData.Proofs.Exchange
set_option autoImplicit false

namespace RefData

theorem Component.attempt_create (name : String) :
    (create name).attempt =
      .ask (.rpc "data/saveComponents" [.str "ins", creationBody name]) fun reply =>
        .done (reply.bind (Created.ofReply name)) := by
  change Fetch.ask _ _ = _
  congr 1
  funext reply
  cases reply <;> rfl

namespace Repository

variable {α β : Type}

def against (work : Repository α) (b : Backend) (s : ComponentStore) : α × ComponentStore :=
  Fetch.against (work.run s) b

@[simp] theorem against_bind (work : Repository α) (rest : α → Repository β) (b : Backend)
    (s : ComponentStore) :
    (work >>= rest).against b s =
      (rest (work.against b s).1).against (b.after (work.run s)) (work.against b s).2 :=
  Fetch.against_bind _ _ _

@[simp] theorem against_pure (value : α) (b : Backend) (s : ComponentStore) :
    (pure value : Repository α).against b s = (value, s) := rfl

@[simp] theorem against_get (b : Backend) (s : ComponentStore) :
    (get : Repository ComponentStore).against b s = (s, s) := rfl

@[simp] theorem against_modifyGet (f : ComponentStore → α × ComponentStore) (b : Backend)
    (s : ComponentStore) : (modifyGet f : Repository α).against b s = f s := rfl

@[simp] theorem against_modify (f : ComponentStore → ComponentStore) (b : Backend)
    (s : ComponentStore) : (modify f : Repository Unit).against b s = ((), f s) := rfl

@[simp] theorem against_lift (work : Fetch α) (b : Backend) (s : ComponentStore) :
    (liftM work : Repository α).against b s = (work.against b, s) :=
  Fetch.against_bind _ _ _

theorem snapshot_against (b : Backend) (s : ComponentStore) :
    snapshot.against b s = match Component.load.attempt.against b with
      | .ok listed =>
        let merged := s.merge (ComponentStore.mergeable listed)
        (merged.snapshot, merged)
      | .error _ => (s.snapshot, s) := by
  simp only [snapshot, against_bind, against_lift]
  cases Component.load.attempt.against b <;> simp

theorem create_against (input : ComponentInput) (b : Backend) (s : ComponentStore) :
    (create input).against b s =
      s.settle ((Component.create input.proposedName).attempt.against b) input := by
  simp [create]

theorem update_against (id : Int) (input : ComponentInput) (b : Backend) (s : ComponentStore) :
    (update id input).against b s = match s.get? id with
      | none => s.settle ((Component.create input.proposedName).attempt.against b) input
      | some existing =>
        (some (s.loaded (input.apply existing)), s.put (input.apply existing)) := by
  simp only [update, against_bind, against_get]
  cases s.get? id with
  | none => exact create_against input _ s
  | some existing => simp [ComponentStore.save]

theorem delete_against (id : Int) (b : Backend) (s : ComponentStore) :
    (delete id).against b s = ((), s.remove id) := by
  simp [delete]

end Repository

namespace ComponentStore

@[simp] theorem get?_put (s : ComponentStore) (c : StoredComponent) (id : Int) :
    (s.put c).get? id = if id = c.id then some c else s.get? id := by
  simp [put, get?]

theorem lastId_put (s : ComponentStore) (c : StoredComponent) :
    (s.put c).lastId = max s.lastId c.id := rfl

@[simp] theorem get?_remove (s : ComponentStore) (removed id : Int) :
    (s.remove removed).get? id = if id = removed then none else s.get? id := by
  simp [remove, get?]

@[simp] theorem get?_ensure (s : ComponentStore) (kind : RelationKind) (name : String) (id : Int) :
    (s.ensure kind name).2.get? id = s.get? id := by
  cases kind <;> rfl

@[simp] theorem lastId_ensure (s : ComponentStore) (kind : RelationKind) (name : String) :
    (s.ensure kind name).2.lastId = s.lastId := by
  cases kind <;> rfl

def taken (s : ComponentStore) (listed : Component.Created) : StoredComponent :=
  match s.get? listed.id with
  | some existing => { existing with cls := listed.cls, name := listed.name }
  | none => { id := listed.id, cls := listed.cls, name := listed.name }

@[simp] theorem get?_mergeOne (s : ComponentStore) (listed : Component.Created) (id : Int) :
    (s.mergeOne listed).get? id = if id = listed.id then some (s.taken listed) else s.get? id := by
  unfold mergeOne taken
  cases s.get? listed.id with
  | some existing => simp [get?]
  | none => simp

theorem lastId_mergeOne (s : ComponentStore) (listed : Component.Created) :
    (s.mergeOne listed).lastId =
      if (s.get? listed.id).isSome then s.lastId else max s.lastId listed.id := by
  unfold mergeOne
  cases s.get? listed.id <;> rfl

inductive Change (s : ComponentStore) : ComponentStore → Prop
  | kept : Change s s
  | merged (listed : List Component.Created) : Change s (s.merge listed)
  | saved (input : ComponentInput) (c : StoredComponent) : Change s (s.put (input.apply c))
  | removed (id : Int) : Change s (s.remove id)
  | ensured (kind : RelationKind) (name : String) : Change s (s.ensure kind name).2

def newcomer? (s : ComponentStore) (created : Except Failure Component.Created)
    (input : ComponentInput) : Option StoredComponent :=
  match created with
  | .ok c => some (input.apply { id := c.id, cls := c.cls, name := c.name })
  | .error _ => (nextNumber? s.lastId).map fun number =>
      input.apply { id := number, cls := Component.defaultCls, name := input.proposedName }

@[simp] theorem loaded_id (s : ComponentStore) (c : StoredComponent) : (s.loaded c).id = c.id :=
  rfl

-- Storing a component under the next id raises the counter to that id in any case.
theorem settle_eq (s : ComponentStore) (created : Except Failure Component.Created)
    (input : ComponentInput) :
    s.settle created input = match s.newcomer? created input with
      | some c => (some (s.loaded c), s.put c)
      | none => (none, s) := by
  cases created with
  | ok c => rfl
  | error reason =>
    cases next : nextNumber? s.lastId with
    | none => simp [settle, allocate, newcomer?, next]
    | some number =>
      obtain ⟨-, rfl⟩ := nextNumber?_eq_some_iff.1 next
      have raised (c : StoredComponent) (own : c.id = s.lastId + 1) :
          put { s with lastId := s.lastId + 1 } c = s.put c := by
        have grows : s.lastId ≤ s.lastId + 1 := by omega
        simp [put, own, grows]
      simp only [settle, allocate, newcomer?, next, Option.map_some]
      rw [save, raised _ rfl]
      rfl

theorem newcomer?_eq_none_iff {s : ComponentStore} {created : Except Failure Component.Created}
    {input : ComponentInput} : s.newcomer? created input = none ↔
      (∃ reason, created = .error reason) ∧ maxInt64 ≤ s.lastId := by
  cases created <;> simp [newcomer?, nextNumber?_eq_none_iff]

theorem exists_apply_of_newcomer? {s : ComponentStore}
    {created : Except Failure Component.Created} {input : ComponentInput} {c : StoredComponent}
    (new : s.newcomer? created input = some c) : ∃ bare, c = input.apply bare := by
  cases created with
  | ok given => exact ⟨_, (Option.some.inj new).symm⟩
  | error reason =>
    obtain ⟨number, -, rfl⟩ := Option.map_eq_some_iff.1 new
    exact ⟨_, rfl⟩

structure Writes (s : ComponentStore) (c : StoredComponent) (t : ComponentStore) : Prop where
  components : t.components = s.components.insert c.id c
  register : t.register = s.register

theorem Writes.get? {s t : ComponentStore} {c : StoredComponent} (writes : Writes s c t)
    (id : Int) : t.get? id = if id = c.id then some c else s.get? id := by
  simp [ComponentStore.get?, writes.components]

theorem writes_put (s : ComponentStore) (c : StoredComponent) : Writes s c (s.put c) := by
  refine ⟨rfl, ?_⟩
  funext kind
  cases kind <;> rfl

end ComponentStore

namespace Repository

open ComponentStore

variable {s : ComponentStore}

-- Of an edit there are two outcomes: a component is stored, or an id of the store's own was needed
-- and there was none left.

theorem create_cases (input : ComponentInput) (b : Backend) (s : ComponentStore) :
    (∃ c, (create input).against b s = (some (s.loaded (input.apply c)), s.put (input.apply c))) ∨
      maxInt64 ≤ s.lastId ∧ (create input).against b s = (none, s) := by
  rw [create_against, settle_eq]
  cases new : s.newcomer? ((Component.create input.proposedName).attempt.against b) input with
  | none => exact .inr ⟨(newcomer?_eq_none_iff.1 new).2, rfl⟩
  | some c =>
    obtain ⟨bare, rfl⟩ := exists_apply_of_newcomer? new
    exact .inl ⟨bare, rfl⟩

theorem update_of_stored {id : Int} {existing : StoredComponent}
    (stored : s.get? id = some existing) (input : ComponentInput) (b : Backend) :
    (update id input).against b s =
      (some (s.loaded (input.apply existing)), s.put (input.apply existing)) := by
  rw [update_against, stored]

theorem update_of_missing {id : Int} (missing : s.get? id = none) (input : ComponentInput)
    (b : Backend) : (update id input).against b s = (create input).against b s := by
  rw [update_against, missing, create_against]

theorem update_cases (id : Int) (input : ComponentInput) (b : Backend) (s : ComponentStore) :
    (∃ c, (update id input).against b s =
        (some (s.loaded (input.apply c)), s.put (input.apply c))) ∨
      maxInt64 ≤ s.lastId ∧ (update id input).against b s = (none, s) := by
  cases stored : s.get? id with
  | none => simpa only [update_of_missing stored] using create_cases input b s
  | some existing => exact .inl ⟨existing, update_of_stored stored input b⟩

end Repository

inductive Operation where
  | snapshot
  | create (input : ComponentInput)
  | update (id : Int) (input : ComponentInput)
  | delete (id : Int)
  | ensure (kind : RelationKind) (name : String)

namespace Operation

open ComponentStore

def after (op : Operation) (b : Backend) (s : ComponentStore) : ComponentStore :=
  match op with
  | .snapshot => (Repository.snapshot.against b s).2
  | .create input => ((Repository.create input).against b s).2
  | .update id input => ((Repository.update id input).against b s).2
  | .delete id => ((Repository.delete id).against b s).2
  | .ensure kind name => ((Repository.ensure kind name).against b s).2

theorem after_change (op : Operation) (b : Backend) (s : ComponentStore) :
    Change s (op.after b s) := by
  cases op with
  | snapshot =>
    rw [after, Repository.snapshot_against]
    cases Component.load.attempt.against b with
    | ok listed => exact .merged _
    | error reason => exact .kept
  | create input =>
    rw [after]
    rcases Repository.create_cases input b s with ⟨c, made⟩ | ⟨-, made⟩ <;> rw [made]
    exacts [.saved input c, .kept]
  | update id input =>
    rw [after]
    rcases Repository.update_cases id input b s with ⟨c, made⟩ | ⟨-, made⟩ <;> rw [made]
    exacts [.saved input c, .kept]
  | delete id =>
    rw [after, Repository.delete_against]
    exact .removed id
  | ensure kind name => exact .ensured kind name

end Operation

inductive History : List ComponentStore → Prop
  | empty : History [ComponentStore.empty]
  | seeded : History [ComponentStore.seeded]
  | step {s : ComponentStore} {earlier : List ComponentStore} (run : History (s :: earlier))
      (op : Operation) (b : Backend) : History (op.after b s :: s :: earlier)

namespace History

open ComponentStore

-- The induction behind every invariant.
theorem invariant {stores : List ComponentStore} (run : History stores)
    {holds : ComponentStore → Prop} (empty : holds .empty) (seeded : holds .seeded)
    (step : ∀ s t, Change s t → holds s → holds t) : ∀ s ∈ stores, holds s := by
  induction run with
  | empty => simpa using empty
  | seeded => simpa using seeded
  | @step s earlier before op b ih =>
    intro t mem
    rcases List.mem_cons.1 mem with rfl | earlierMem
    · exact step s _ (op.after_change b s) (ih s (by simp))
    · exact ih t earlierMem

end History

namespace ComponentStore

def Keyed (s : ComponentStore) : Prop := ∀ id c, s.get? id = some c → c.id = id

theorem Writes.keyed {s t : ComponentStore} {c : StoredComponent} (writes : Writes s c t)
    (keyed : s.Keyed) : t.Keyed := by
  intro id stored found
  rw [writes.get?] at found
  split at found
  · cases found
    exact .symm ‹_›
  · exact keyed id stored found

theorem Keyed.mergeOne {s : ComponentStore} (keyed : s.Keyed) (listed : Component.Created) :
    (s.mergeOne listed).Keyed := by
  intro id stored found
  rw [get?_mergeOne] at found
  split at found
  · cases found
    subst id
    unfold taken
    cases known : s.get? listed.id with
    | some existing => exact keyed listed.id existing known
    | none => rfl
  · exact keyed id stored found

theorem Keyed.merge {s : ComponentStore} (keyed : s.Keyed) (listed : List Component.Created) :
    (s.merge listed).Keyed := by
  induction listed generalizing s with
  | nil => exact keyed
  | cons first rest ih => exact ih (keyed.mergeOne first)

theorem Keyed.change {s t : ComponentStore} (change : Change s t) (keyed : s.Keyed) : t.Keyed := by
  cases change with
  | kept => exact keyed
  | merged listed => exact keyed.merge listed
  | saved input c => exact (s.writes_put _).keyed keyed
  | removed id =>
    intro other stored found
    rw [get?_remove] at found
    split at found
    · cases found
    · exact keyed other stored found
  | ensured kind name =>
    intro id stored found
    exact keyed id stored (by simpa using found)

theorem keyed_of_components_empty {s : ComponentStore} (none : s.components = Dict.empty) :
    s.Keyed := by
  intro id stored found
  simp [get?, none] at found

theorem keyed_seeded : seeded.Keyed :=
  (writes_put _ _).keyed ((writes_put _ _).keyed ((writes_put _ _).keyed
    (keyed_of_components_empty rfl)))

end ComponentStore

namespace History

open ComponentStore

theorem keyed {stores : List ComponentStore} (run : History stores) : ∀ s ∈ stores, s.Keyed :=
  run.invariant (keyed_of_components_empty rfl) keyed_seeded
    fun _ _ change => Keyed.change change

end History

end RefData
