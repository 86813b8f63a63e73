import RefData.Proofs.Component.Merge
import RefData.Proofs.Component.Numbering
import RefData.Proofs.Number
import RefData.Proofs.Text.Fold
set_option autoImplicit false

namespace RefData

namespace Register

variable {r : Register} {name : String} {option : DirectoryOption}

structure WellNamed (r : Register) : Prop where
  unique : ∀ id id' o o', r.entries.get? id = some o → r.entries.get? id' = some o' →
    Text.fold o.name = Text.fold o'.name → id = id'
  keyed : ∀ id o, r.entries.get? id = some o → o.id = id
  started : 0 ≤ r.lastId
  passed : ∀ id o number, r.entries.get? id = some o → readInt64? id.toList = some number →
    number ≤ r.lastId

def Unused (r : Register) (name : String) : Prop :=
  ∀ id o, r.entries.get? id = some o → Text.fold o.name ≠ Text.fold name

@[simp] theorem get?_insert (r : Register) (option : DirectoryOption) (id : String) :
    (r.insert option).entries.get? id = if id = option.id then some option else r.entries.get? id := by
  simp [insert]

theorem lastId_le_insert (r : Register) (option : DirectoryOption) :
    r.lastId ≤ (r.insert option).lastId := by
  unfold insert
  cases readInt64? option.id.toList with
  | some number => exact le_max_left _ _
  | none => exact le_refl _

theorem number_le_insert (r : Register) {number : Int}
    (reads : readInt64? option.id.toList = some number) : number ≤ (r.insert option).lastId := by
  simp [insert, reads]

theorem WellNamed.insert (wellNamed : r.WellNamed) (unused : r.Unused option.name) :
    (r.insert option).WellNamed where
  unique := by
    intro id id' o o' found found' same
    rw [get?_insert] at found found'
    split at found <;> split at found'
    · simp_all
    · cases found
      exact absurd same.symm (unused id' o' found')
    · cases found'
      exact absurd same (unused id o found)
    · exact wellNamed.unique id id' o o' found found' same
  keyed := by
    intro id o found
    rw [get?_insert] at found
    split at found
    · cases found
      exact .symm ‹_›
    · exact wellNamed.keyed id o found
  started := wellNamed.started.trans (r.lastId_le_insert option)
  passed := by
    intro id o number found reads
    rw [get?_insert] at found
    split at found
    · subst id
      exact r.number_le_insert reads
    · exact (wellNamed.passed id o number found reads).trans (r.lastId_le_insert option)

theorem unused_insert (unused : r.Unused name) (other : Text.fold option.name ≠ Text.fold name) :
    (r.insert option).Unused name := by
  intro id o found
  rw [get?_insert] at found
  split at found
  · cases found
    exact other
  · exact unused id o found

theorem wellNamed_empty : ({} : Register).WellNamed where
  unique := by simp
  keyed := by simp
  started := le_refl _
  passed := by simp

theorem wellNamed_ofEntries (cls : String) {entries : List (String × String)}
    (distinct : ((entries.map Prod.snd).map Text.fold).Nodup) :
    (ofEntries cls entries).WellNamed := by
  -- Along the fold, the names that are still to come stay unused.
  suffices ∀ r : Register, r.WellNamed → (∀ e ∈ entries, r.Unused e.2) →
      (entries.foldl (fun r e => r.insert { id := e.1, name := e.2, cls := some cls })
        r).WellNamed from this {} wellNamed_empty (by simp [Unused])
  induction entries with
  | nil => exact fun r wellNamed _ => wellNamed
  | cons first rest ih =>
    intro r wellNamed unused
    obtain ⟨new, distinctRest⟩ := List.nodup_cons.1 distinct
    refine ih distinctRest _ (wellNamed.insert (unused first List.mem_cons_self)) fun e mem => ?_
    refine unused_insert (unused e (List.mem_cons_of_mem _ mem)) fun same => new ?_
    exact List.mem_map.2 ⟨e.2, List.mem_map_of_mem mem, same.symm⟩

theorem WellNamed.eq_of_fold_eq (wellNamed : r.WellNamed) {id id' : String} {o o' : DirectoryOption}
    (stored : r.entries.get? id = some o) (stored' : r.entries.get? id' = some o')
    (same : Text.fold o.name = Text.fold o'.name) : o = o' := by
  have sameId := wellNamed.unique id id' o o' stored stored' same
  rw [sameId, stored'] at stored
  exact (Option.some_inj.1 stored).symm

theorem find?_eq_some_iff (wellNamed : r.WellNamed) :
    r.find? name = some option ↔
      r.entries.get? option.id = some option ∧ Text.fold option.name = Text.fold name := by
  constructor
  · intro found
    obtain ⟨id, stored⟩ := (Dict.mem_values _ _).1 (List.mem_of_find?_eq_some found)
    refine ⟨wellNamed.keyed id option stored ▸ stored, by simpa using List.find?_some found⟩
  · rintro ⟨stored, same⟩
    have some : (r.find? name).isSome := by
      rw [find?, List.find?_isSome]
      exact ⟨option, (Dict.mem_values _ _).2 ⟨_, stored⟩, by simpa using same⟩
    obtain ⟨other, found⟩ := Option.isSome_iff_exists.1 some
    obtain ⟨id, storedOther⟩ := (Dict.mem_values _ _).1 (List.mem_of_find?_eq_some found)
    have sameOther : Text.fold other.name = Text.fold name := by simpa using List.find?_some found
    rw [found, wellNamed.eq_of_fold_eq storedOther stored (sameOther.trans same.symm)]

theorem find?_eq_none_iff : r.find? name = none ↔ r.Unused name := by
  simp only [find?, List.find?_eq_none, Dict.mem_values, Unused, beq_iff_eq]
  grind

def made (r : Register) (placeholder name : String) : DirectoryOption where
  id := String.ofList (intText (r.lastId + 1))
  name := if (Text.trim name).isEmpty then placeholder else Text.trim name

def extended (r : Register) (placeholder name : String) : Register :=
  insert { r with lastId := r.lastId + 1 } (r.made placeholder name)

theorem ensure_of_found (found : r.find? name = some option) (placeholder : String) :
    r.ensure placeholder name = (some option, r) := by
  rw [ensure, found]

theorem ensure_of_room (unused : r.Unused name) (below : r.lastId < maxInt64)
    (placeholder : String) : r.ensure placeholder name =
      (some (r.made placeholder name), r.extended placeholder name) := by
  have next : nextNumber? r.lastId = some (r.lastId + 1) := nextNumber?_eq_some_iff.2 ⟨below, rfl⟩
  simp only [ensure, find?_eq_none_iff.2 unused, next]
  rfl

theorem ensure_of_full (unused : r.Unused name) (full : maxInt64 ≤ r.lastId)
    (placeholder : String) : r.ensure placeholder name = (none, r) := by
  simp only [ensure, find?_eq_none_iff.2 unused, nextNumber?_eq_none_iff.2 full]

-- There is an entry of the name, or one is made, or there is no number left for it.
theorem ensure_cases (r : Register) (placeholder name : String) :
    (∃ option, r.find? name = some option ∧ r.ensure placeholder name = (some option, r)) ∨
    (r.Unused name ∧ r.lastId < maxInt64 ∧ r.ensure placeholder name =
      (some (r.made placeholder name), r.extended placeholder name)) ∨
    (r.Unused name ∧ maxInt64 ≤ r.lastId ∧ r.ensure placeholder name = (none, r)) := by
  cases found : r.find? name with
  | some option => exact .inl ⟨option, rfl, ensure_of_found found placeholder⟩
  | none =>
    have unused := find?_eq_none_iff.1 found
    by_cases below : r.lastId < maxInt64
    · exact .inr (.inl ⟨unused, below, ensure_of_room unused below placeholder⟩)
    · have full := Int.not_lt.1 below
      exact .inr (.inr ⟨unused, full, ensure_of_full unused full placeholder⟩)

theorem ensure_of_stored (wellNamed : r.WellNamed) (placeholder : String)
    (stored : r.entries.get? option.id = some option)
    (same : Text.fold option.name = Text.fold name) :
    r.ensure placeholder name = (some option, r) :=
  ensure_of_found ((find?_eq_some_iff wellNamed).2 ⟨stored, same⟩) placeholder

theorem made_of_filled (filled : Text.trim name ≠ "") (r : Register) (placeholder : String) :
    r.made placeholder name =
      { id := (r.made placeholder name).id, name := Text.trim name } := by
  simp [made, filled]

section Counting

variable (wellNamed : r.WellNamed) (below : r.lastId < maxInt64)

include wellNamed below

theorem readInt64?_made (placeholder name : String) :
    readInt64? (r.made placeholder name).id.toList = some (r.lastId + 1) := by
  have started := wellNamed.started
  rw [made, String.toList_ofList]
  exact readInt64?_intText (by unfold minInt64; omega) (by omega)

theorem get?_made (placeholder name : String) :
    r.entries.get? (r.made placeholder name).id = none := by
  rw [Option.eq_none_iff_forall_ne_some]
  intro o found
  have := wellNamed.passed _ o _ found (readInt64?_made wellNamed below placeholder name)
  omega

end Counting

theorem WellNamed.extended (wellNamed : r.WellNamed) (placeholder : String)
    (filled : Text.trim name ≠ "") (unused : r.Unused name) :
    (r.extended placeholder name).WellNamed := by
  have counted : WellNamed { r with lastId := r.lastId + 1 } := by
    refine ⟨wellNamed.unique, wellNamed.keyed, ?_, ?_⟩
    · change 0 ≤ r.lastId + 1
      have := wellNamed.started
      omega
    · intro id o number stored reads
      change number ≤ r.lastId + 1
      have := wellNamed.passed id o number stored reads
      omega
  refine counted.insert fun id o stored => ?_
  rw [made_of_filled filled, Text.fold_trim]
  exact unused id o stored

theorem WellNamed.ensure (wellNamed : r.WellNamed) (placeholder : String)
    (filled : Text.trim name ≠ "") : (r.ensure placeholder name).2.WellNamed := by
  rcases r.ensure_cases placeholder name with
    ⟨_, -, ensured⟩ | ⟨unused, -, ensured⟩ | ⟨-, -, ensured⟩ <;> rw [ensured]
  exacts [wellNamed, wellNamed.extended placeholder filled unused, wellNamed]

end Register

def Operation.Named : Operation → Prop
  | .ensure _ name => Text.trim name ≠ ""
  | _ => True

namespace ComponentStore

variable {s t : ComponentStore}

inductive NamedStep (s : ComponentStore) : ComponentStore → Prop
  | operated (op : Operation) (b : Backend) (named : op.Named) : NamedStep s (op.after b s)
  | allocated : NamedStep s s.allocate.2
  | put (c : StoredComponent) : NamedStep s (s.put c)
  | removed (id : Int) : NamedStep s (s.remove id)
  | merged (listed : List Component.Created) : NamedStep s (s.merge listed)

theorem setRegister_register (s : ComponentStore) (kind : RelationKind) :
    s.setRegister kind (s.register kind) = s := by
  cases kind <;> rfl

theorem register_ensure (s : ComponentStore) (kind other : RelationKind) (name : String) :
    (s.ensure kind name).2.register other =
      if other = kind then ((s.register kind).ensure kind.placeholder name).2
      else s.register other := by
  cases kind <;> cases other <;> rfl

@[simp] theorem components_ensure (s : ComponentStore) (kind : RelationKind) (name : String) :
    (s.ensure kind name).2.components = s.components := by
  cases kind <;> rfl

theorem register_remove (s : ComponentStore) (id : Int) : (s.remove id).register = s.register := by
  funext kind
  cases kind <;> rfl

theorem register_allocate (s : ComponentStore) : s.allocate.2.register = s.register := by
  unfold allocate
  cases nextNumber? s.lastId with
  | none => rfl
  | some number =>
    funext kind
    cases kind <;> rfl

theorem register_after (op : Operation) (b : Backend) (s : ComponentStore)
    (named : op.Named) : (op.after b s).register = s.register ∨
      ∃ kind name, Text.trim name ≠ "" ∧ op.after b s = (s.ensure kind name).2 := by
  cases op with
  | snapshot =>
    left
    rw [Operation.after, Repository.snapshot_against]
    cases Component.load.attempt.against b with
    | ok listed => exact register_merge s _
    | error reason => rfl
  | create input =>
    left
    rw [Operation.after]
    rcases Repository.create_cases input b s with ⟨c, made⟩ | ⟨-, made⟩ <;> rw [made]
    exact (s.writes_put _).register
  | update id input =>
    left
    rw [Operation.after]
    rcases Repository.update_cases id input b s with ⟨c, made⟩ | ⟨-, made⟩ <;> rw [made]
    exact (s.writes_put _).register
  | delete id =>
    left
    rw [Operation.after, Repository.delete_against]
    exact register_remove s id
  | ensure kind name => exact .inr ⟨kind, name, named, rfl⟩

theorem NamedStep.register (step : NamedStep s t) : t.register = s.register ∨
    ∃ kind name, Text.trim name ≠ "" ∧ t = (s.ensure kind name).2 := by
  cases step with
  | operated op b named => exact register_after op b s named
  | allocated => exact .inl (register_allocate s)
  | put c => exact .inl (s.writes_put c).register
  | removed id => exact .inl (register_remove s id)
  | merged listed => exact .inl (register_merge s listed)

def WellNamed (s : ComponentStore) : Prop := ∀ kind, (s.register kind).WellNamed

theorem entry?_eq (s : ComponentStore) (kind : RelationKind) (id : String) :
    s.entry? kind id = (s.register kind).entries.get? id := rfl

theorem ensure_of_stored (wellNamed : s.WellNamed) {kind : RelationKind} {name : String}
    {option : DirectoryOption} (stored : s.entry? kind option.id = some option)
    (same : Text.fold option.name = Text.fold name) : s.ensure kind name = (some option, s) := by
  rw [ensure, Register.ensure_of_stored (wellNamed kind) kind.placeholder stored same]
  exact congrArg _ (setRegister_register s kind)

section Steps

variable (wellNamed : s.WellNamed)

include wellNamed

theorem WellNamed.ensure (kind : RelationKind) {name : String} (filled : Text.trim name ≠ "") :
    (s.ensure kind name).2.WellNamed := by
  intro other
  rw [register_ensure]
  split
  · exact (wellNamed kind).ensure kind.placeholder filled
  · exact wellNamed other

theorem ensure_cases (kind : RelationKind) {name : String} (filled : Text.trim name ≠ "") :
    (∃ o, s.entry? kind o.id = some o ∧ Text.fold o.name = Text.fold name ∧
      s.ensure kind name = (some o, s)) ∨
    ((s.register kind).Unused name ∧ ∃ o t, s.ensure kind name = (some o, t) ∧
      o = { id := o.id, name := Text.trim name } ∧ s.entry? kind o.id = none ∧
      ∀ id, t.entry? kind id = if id = o.id then some o else s.entry? kind id) ∨
    maxInt64 ≤ (s.register kind).lastId ∧ s.ensure kind name = (none, s) := by
  have whole := setRegister_register s kind
  rcases (s.register kind).ensure_cases kind.placeholder name with
    ⟨option, found, -⟩ | ⟨unused, below, ensured⟩ | ⟨-, full, ensured⟩
  · obtain ⟨stored, same⟩ := (Register.find?_eq_some_iff (wellNamed kind)).1 found
    exact .inl ⟨option, stored, same, ensure_of_stored wellNamed stored same⟩
  · have first : (s.ensure kind name).1 = some ((s.register kind).made kind.placeholder name) :=
      congrArg Prod.fst ensured
    refine .inr (.inl ⟨unused, (s.register kind).made kind.placeholder name,
      (s.ensure kind name).2, Prod.ext first rfl, Register.made_of_filled filled _ _,
      Register.get?_made (wellNamed kind) below kind.placeholder name, fun id => ?_⟩)
    rw [entry?_eq, register_ensure, if_pos rfl, ensured, Register.extended, Register.get?_insert]
    rfl
  · rw [ensure, ensured]
    exact .inr (.inr ⟨full, congrArg _ whole⟩)

theorem ensure_keeps (kind : RelationKind) {name : String} (filled : Text.trim name ≠ "")
    {other : RelationKind} {id : String} {o : DirectoryOption}
    (stored : s.entry? other id = some o) : entry? (s.ensure kind name).2 other id = some o := by
  by_cases same : other = kind
  · subst other
    rcases ensure_cases wellNamed kind filled with
      ⟨_, -, -, ensured⟩ | ⟨-, made, t, ensured, -, free, entries⟩ | ⟨-, ensured⟩
    · rwa [ensured]
    · rw [ensured, entries, if_neg, stored]
      rintro rfl
      rw [free] at stored
      cases stored
    · rwa [ensured]
  · rwa [entry?_eq, register_ensure, if_neg same]

theorem ensure_again (kind : RelationKind) {name : String} (filled : Text.trim name ≠ "") :
    (s.ensure kind name).2.ensure kind name = s.ensure kind name := by
  have wellNamedAfter := wellNamed.ensure kind filled
  rcases ensure_cases wellNamed kind filled with
    ⟨o, -, -, ensured⟩ | ⟨-, o, t, ensured, trimmed, -, entries⟩ | ⟨-, ensured⟩
  · rw [ensured, ensured]
  · rw [ensured] at wellNamedAfter ⊢
    apply ensure_of_stored wellNamedAfter
    · rw [entries, if_pos rfl]
    · rw [trimmed, Text.fold_trim]
  · rw [ensured, ensured]

theorem NamedStep.keeps_wellNamed (step : NamedStep s t) : t.WellNamed := by
  rcases step.register with same | ⟨kind, name, filled, rfl⟩
  · unfold WellNamed
    rwa [same]
  · exact wellNamed.ensure kind filled

theorem NamedStep.keeps_entry (step : NamedStep s t) {kind : RelationKind} {id : String}
    {o : DirectoryOption} (stored : s.entry? kind id = some o) : t.entry? kind id = some o := by
  rcases step.register with same | ⟨asked, name, filled, rfl⟩
  · rwa [entry?_eq, same]
  · exact ensure_keeps wellNamed asked filled stored

end Steps

theorem wellNamed_empty : empty.WellNamed := by
  intro kind
  cases kind <;> exact Register.wellNamed_empty

theorem wellNamed_seeded : seeded.WellNamed := by
  intro kind
  cases kind <;>
  · apply Register.wellNamed_ofEntries
    apply Text.nodup_fold_of_isPlain <;> decide +kernel

end ComponentStore

inductive NamedHistory : List ComponentStore → Prop
  | empty : NamedHistory [ComponentStore.empty]
  | seeded : NamedHistory [ComponentStore.seeded]
  | step {s t : ComponentStore} {earlier : List ComponentStore} (run : NamedHistory (s :: earlier))
      (next : ComponentStore.NamedStep s t) : NamedHistory (t :: s :: earlier)

namespace NamedHistory

open ComponentStore

variable {s : ComponentStore} {earlier stores : List ComponentStore}

theorem wellNamed (run : NamedHistory stores) : ∀ s ∈ stores, s.WellNamed := by
  induction run with
  | empty => simpa using wellNamed_empty
  | seeded => simpa using wellNamed_seeded
  | @step s t earlier before next ih =>
    intro u mem
    rcases List.mem_cons.1 mem with rfl | earlierMem
    · exact next.keeps_wellNamed (ih s (by simp))
    · exact ih u earlierMem

theorem keeps_entries (run : NamedHistory stores) :
    stores.Pairwise fun later s => ∀ kind id o,
      s.entry? kind id = some o → later.entry? kind id = some o := by
  induction run with
  | empty => simp
  | seeded => simp
  | @step s t earlier before next ih =>
    refine List.pairwise_cons.2 ⟨fun u mem kind id o stored => ?_, ih⟩
    apply next.keeps_entry (before.wellNamed s (by simp))
    rcases List.mem_cons.1 mem with rfl | earlierMem
    · exact stored
    · exact List.rel_of_pairwise_cons ih earlierMem kind id o stored

-- An id that is not in use was never in use, since no entry is ever taken away.
theorem never_used (run : NamedHistory (s :: earlier)) {kind : RelationKind} {id : String}
    (free : s.entry? kind id = none) : ∀ t ∈ s :: earlier, t.entry? kind id = none := by
  intro t mem
  rcases List.mem_cons.1 mem with rfl | earlierMem
  · exact free
  · rw [Option.eq_none_iff_forall_ne_some]
    intro o stored
    have kept := List.rel_of_pairwise_cons run.keeps_entries earlierMem kind id o stored
    rw [free] at kept
    cases kept

/-- In every directory names differ by more than spelling, entries stand under their own ids and the
counter passes the numeric ones. So a name that is asked for names one entry: the one that is there,
or a new one under an id that was never used, and it does so again. Nothing else changes. There is
no answer only when the directory has no number left. -/
theorem directories_tell_names_apart (run : NamedHistory (s :: earlier)) :
    (∀ t ∈ s :: earlier, ∀ kind,
      (∀ id id' o o', t.entry? kind id = some o → t.entry? kind id' = some o' →
        Text.fold o.name = Text.fold o'.name → id = id') ∧
      (∀ id o, t.entry? kind id = some o → o.id = id) ∧
      ∀ id o number, t.entry? kind id = some o → readInt64? id.toList = some number →
        number ≤ (t.register kind).lastId) ∧
    ((s :: earlier).Pairwise fun later t => ∀ kind id o,
      t.entry? kind id = some o → later.entry? kind id = some o) ∧
    ∀ kind name, Text.trim name ≠ "" →
      let after := (s.ensure kind name).2
      ((s.ensure kind name).1 = none → maxInt64 ≤ (s.register kind).lastId ∧ after = s) ∧
      (∀ option, (s.ensure kind name).1 = some option →
        (s.entry? kind option.id = some option ∧ Text.fold option.name = Text.fold name ∧
            (∀ id o, s.entry? kind id = some o → Text.fold o.name = Text.fold name → o = option) ∧
            after = s ∨
          (∀ id o, s.entry? kind id = some o → Text.fold o.name ≠ Text.fold name) ∧
            option = { id := option.id, name := Text.trim name } ∧
            (∀ t ∈ s :: earlier, t.entry? kind option.id = none) ∧
            ∀ id, after.entry? kind id =
              if id = option.id then some option else s.entry? kind id) ∧
        after.ensure kind name = (some option, after)) ∧
      after.components = s.components ∧ after.lastId = s.lastId ∧
      ∀ other, other ≠ kind → after.register other = s.register other := by
  have wellNamed := run.wellNamed
  have here := wellNamed s (by simp)
  refine ⟨fun t mem kind => ?_, run.keeps_entries, fun kind name filled => ?_⟩
  · have held := wellNamed t mem kind
    exact ⟨held.unique, held.keyed, held.passed⟩
  · have again := ensure_again here kind filled
    refine ⟨?_, ?_, components_ensure s kind name, lastId_ensure s kind name,
      fun other different => (register_ensure s kind other name).trans (if_neg different)⟩
    all_goals
      rcases ensure_cases here kind filled with
        ⟨o, stored, same, ensured⟩ | ⟨unused, o, t, ensured, trimmed, free, entries⟩ |
          ⟨full, ensured⟩ <;>
      rw [ensured] at again ⊢
    · exact fun none => by cases none
    · exact fun none => by cases none
    · exact fun _ => ⟨full, rfl⟩
    · rintro option ⟨⟩
      refine ⟨.inl ⟨stored, same, fun id p storedToo alike => ?_, rfl⟩, again⟩
      exact (here kind).eq_of_fold_eq storedToo stored (alike.trans same.symm)
    · rintro option ⟨⟩
      exact ⟨.inr ⟨unused, trimmed, run.never_used free, entries⟩, again⟩
    · rintro option ⟨⟩

theorem directories_tell_names_apart_again :
    let s := (Operation.ensure .defect "Rust ").after (.always (.error (.transport "refused"))) .empty
    NamedHistory [s, .empty] ∧ s.ensure .defect "rust" = (some { id := "1", name := "Rust" }, s) := by
  intro s
  have filled : Text.trim "Rust " ≠ "" := by decide
  have run : NamedHistory [s, .empty] := .step .empty (.operated _ _ filled)
  have stored : s.entry? .defect "1" = some { id := "1", name := "Rust" } := by decide +kernel
  have same : Text.fold "Rust" = Text.fold "rust" := by decide +kernel
  have below : ¬ maxInt64 ≤ (s.register .defect).lastId := by decide +kernel
  obtain ⟨missing, answered, -⟩ :=
    (directories_tell_names_apart run).2.2 .defect "rust" (by decide)
  refine ⟨run, ?_⟩
  generalize s.ensure .defect "rust" = answer at missing answered ⊢
  obtain ⟨_ | option, after⟩ := answer
  · exact absurd (missing rfl).1 below
  · obtain ⟨⟨-, -, only, rfl⟩ | ⟨unused, -⟩, -⟩ := answered option rfl
    · rw [only "1" { id := "1", name := "Rust" } stored same]
    · exact absurd same (unused "1" { id := "1", name := "Rust" } stored)

end NamedHistory

end RefData
