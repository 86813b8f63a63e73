import RefData.Proofs.Component.Run
set_option autoImplicit false

namespace RefData

namespace ComponentStore

structure Numbered (s : ComponentStore) : Prop where
  started : 0 ≤ s.lastId
  passed : ∀ id c, s.get? id = some c → id ≤ s.lastId

theorem Numbered.put {s : ComponentStore} (numbered : s.Numbered) (c : StoredComponent) :
    (s.put c).Numbered := by
  have started := numbered.started
  have last := s.lastId_put c
  refine ⟨by omega, ?_⟩
  intro id stored found
  rw [get?_put] at found
  split at found
  · omega
  · have := numbered.passed id stored found
    omega

theorem Numbered.mergeOne {s : ComponentStore} (numbered : s.Numbered)
    (listed : Component.Created) :
    (s.mergeOne listed).Numbered ∧ s.lastId ≤ (s.mergeOne listed).lastId := by
  have last := s.lastId_mergeOne listed
  have grows : s.lastId ≤ (s.mergeOne listed).lastId := by
    rw [last]
    split <;> omega
  have covers : listed.id ≤ (s.mergeOne listed).lastId := by
    -- The counter is raised only for a new id; a stored one it has passed already.
    rw [last]
    split
    · obtain ⟨c, found⟩ := Option.isSome_iff_exists.1 ‹_›
      exact numbered.passed _ c found
    · omega
  refine ⟨⟨numbered.started.trans grows, ?_⟩, grows⟩
  intro id stored found
  rw [get?_mergeOne] at found
  split at found
  · omega
  · exact (numbered.passed id stored found).trans grows

theorem Numbered.merge {s : ComponentStore} (numbered : s.Numbered)
    (listed : List Component.Created) :
    (s.merge listed).Numbered ∧ s.lastId ≤ (s.merge listed).lastId := by
  induction listed generalizing s with
  | nil => exact ⟨numbered, le_refl _⟩
  | cons first rest ih =>
    obtain ⟨one, grows⟩ := numbered.mergeOne first
    obtain ⟨all, growsAll⟩ := ih one
    exact ⟨all, grows.trans growsAll⟩

theorem Numbered.remove {s : ComponentStore} (numbered : s.Numbered) (id : Int) :
    (s.remove id).Numbered := by
  refine ⟨numbered.started, fun other stored found => ?_⟩
  rw [get?_remove] at found
  split at found
  · cases found
  · exact numbered.passed other stored found

theorem Numbered.ensure {s : ComponentStore} (numbered : s.Numbered) (kind : RelationKind)
    (name : String) : (s.ensure kind name).2.Numbered := by
  refine ⟨?_, fun id stored found => ?_⟩
  · simpa using numbered.started
  · simpa using numbered.passed id stored (by simpa using found)

theorem Numbered.change {s t : ComponentStore} (change : Change s t) (numbered : s.Numbered) :
    t.Numbered ∧ s.lastId ≤ t.lastId := by
  cases change with
  | kept => exact ⟨numbered, le_refl _⟩
  | merged listed => exact numbered.merge listed
  | saved input c => exact ⟨numbered.put _, by rw [lastId_put]; omega⟩
  | removed id => exact ⟨numbered.remove id, le_refl _⟩
  | ensured kind name => exact ⟨numbered.ensure kind name, by simp⟩

theorem numbered_of_components_empty {s : ComponentStore} (none : s.components = Dict.empty)
    (last : s.lastId = 0) : s.Numbered := by
  refine ⟨by omega, fun id stored found => ?_⟩
  simp [get?, none] at found

theorem numbered_seeded : seeded.Numbered :=
  .put (.put (.put (numbered_of_components_empty rfl rfl) _) _) _

end ComponentStore

namespace History

open ComponentStore

variable {s : ComponentStore} {earlier stores : List ComponentStore}

theorem numbered (run : History stores) : ∀ s ∈ stores, s.Numbered :=
  run.invariant (numbered_of_components_empty rfl rfl) numbered_seeded
    fun _ _ change numbered => (numbered.change change).1

theorem lastId_grows (run : History stores) :
    stores.Pairwise fun later s => s.lastId ≤ later.lastId := by
  induction run with
  | empty => simp
  | seeded => simp
  | @step s earlier before op b ih =>
    have numbered := before.numbered s (by simp)
    have grows := (numbered.change (op.after_change b s)).2
    refine List.pairwise_cons.2 ⟨fun t mem => ?_, ih⟩
    rcases List.mem_cons.1 mem with rfl | earlierMem
    · exact grows
    · exact (List.rel_of_pairwise_cons ih earlierMem).trans grows

-- What was deleted counts too: its store is an earlier one of the run.
theorem passed (run : History (s :: earlier)) :
    ∀ t ∈ s :: earlier, ∀ id c, t.get? id = some c → id ≤ s.lastId := by
  intro t mem id c found
  have own := (run.numbered t mem).passed id c found
  rcases List.mem_cons.1 mem with rfl | earlierMem
  · exact own
  · exact own.trans (List.rel_of_pairwise_cons run.lastId_grows earlierMem)

theorem failed_create {input : ComponentInput} {b : Backend} {reason : Failure}
    (failed : (Component.create input.proposedName).attempt.against b = .error reason) :
    (s.lastId < maxInt64 ∧ ∃ c : StoredComponent, c.id = s.lastId + 1 ∧
        (Repository.create input).against b s = (some (s.loaded c), s.put c)) ∨
      maxInt64 ≤ s.lastId ∧ (Repository.create input).against b s = (none, s) := by
  rw [Repository.create_against, failed, settle_eq, newcomer?]
  cases next : nextNumber? s.lastId with
  | none => exact .inr ⟨nextNumber?_eq_none_iff.1 next, rfl⟩
  | some number =>
    obtain ⟨below, rfl⟩ := nextNumber?_eq_some_iff.1 next
    exact .inl ⟨below, _, rfl, rfl⟩

theorem failed_create_keeps (run : History (s :: earlier)) {input : ComponentInput} {b : Backend}
    {reason : Failure}
    (failed : (Component.create input.proposedName).attempt.against b = .error reason) :
    ∀ id c, s.get? id = some c → ((Repository.create input).against b s).2.get? id = some c := by
  intro id c found
  rcases failed_create (s := s) failed with ⟨-, made, own, created⟩ | ⟨-, created⟩
  · have passed := (run.numbered s (by simp)).passed id c found
    rw [created, get?_put, if_neg (by omega), found]
  · rw [created, found]

/-- Whatever the backend answers, the counter passes every id that was ever stored, so an id of the
store's own is a new one. -/
theorem counter_passes_every_id (run : History (s :: earlier)) :
    (∀ t ∈ s :: earlier, ∀ id c, t.get? id = some c → c.id = id) ∧
    ((s :: earlier).Pairwise fun later t =>
      t.lastId ≤ later.lastId ∧ ∀ id c, t.get? id = some c → id ≤ later.lastId) ∧
    (∀ t ∈ s :: earlier, ∀ id c, t.get? id = some c → id ≤ t.lastId) ∧
    ∀ (input : ComponentInput) (b : Backend) (reason : Failure),
      (Component.create input.proposedName).attempt.against b = .error reason →
        (s.lastId < maxInt64 → ∃ made, ((Repository.create input).against b s).1 = some made ∧
          ∀ t ∈ s :: earlier, ∀ id c, t.get? id = some c → id < made.id) ∧
        ∀ id c, s.get? id = some c →
          ((Repository.create input).against b s).2.get? id = some c := by
  have numbered := run.numbered
  refine ⟨run.keyed, ?_, fun t mem => (numbered t mem).passed, ?_⟩
  · refine run.lastId_grows.imp_of_mem fun {later t} _ mem grows => ⟨grows, ?_⟩
    intro id c found
    exact ((numbered t mem).passed id c found).trans grows
  · intro input b reason failed
    refine ⟨fun below => ?_, run.failed_create_keeps failed⟩
    rcases failed_create (s := s) failed with ⟨-, c, own, created⟩ | ⟨full, -⟩
    · refine ⟨s.loaded c, by rw [created], fun t mem id stored found => ?_⟩
      have passed := run.passed t mem id stored found
      rw [loaded_id]
      omega
    · omega

theorem counter_passes_deleted_id :
    let unreachable := Backend.always (.error (.transport "refused"))
    let s := (Operation.delete 3).after unreachable .seeded
    s.lastId < maxInt64 ∧ s.get? 3 = none ∧
      ∃ made, ((Repository.create { name := "Болт" }).against unreachable s).1 = some made ∧
        ∀ t ∈ [s, .seeded], ∀ id c, t.get? id = some c → id < made.id := by
  have run : History _ := .step .seeded (.delete 3) (.always (.error (.transport "refused")))
  have below : ((Operation.delete 3).after (.always (.error (.transport "refused")))
      .seeded).lastId < maxInt64 := by decide
  exact ⟨below, by decide, ((counter_passes_every_id run).2.2.2 _ _ _ rfl).1 below⟩

/-- A creation replaces at most what is stored under the id that the backend gives. -/
theorem create_replaces_only_given_id (run : History (s :: earlier)) (input : ComponentInput)
    (b : Backend) :
    let made := ((Repository.create input).against b s).1
    let after := ((Repository.create input).against b s).2
    (∀ id c, s.get? id = some c → (∀ shown ∈ made, id ≠ shown.id) → after.get? id = some c) ∧
    (∀ given, (Component.create input.proposedName).attempt.against b = .ok given →
      (∃ shown, made = some shown ∧ shown.id = given.id) ∧ after.get? given.id =
        some (input.apply { id := given.id, cls := given.cls, name := given.name })) ∧
    ∀ reason, (Component.create input.proposedName).attempt.against b = .error reason →
      ∀ id c, s.get? id = some c → after.get? id = some c := by
  refine ⟨?_, ?_, fun reason failed => run.failed_create_keeps failed⟩
  · intro id c found other
    rw [Repository.create_against, settle_eq] at other ⊢
    cases new : s.newcomer? _ input with
    | none => simpa [new] using found
    | some created =>
      simp only [new, Option.mem_some_iff, forall_eq', loaded_id] at other ⊢
      rw [get?_put, if_neg other, found]
  · intro given replied
    rw [Repository.create_against, replied]
    exact ⟨⟨_, rfl, rfl⟩, (get?_put s _ given.id).trans (if_pos rfl)⟩

theorem create_replaces_first_seeded :
    let replies := Backend.always (.ok (.obj [("id", .int 1)]))
    let unreachable := Backend.always (.error (.transport "refused"))
    let after (b : Backend) := ((Repository.create { name := "Болт" }).against b .seeded).2
    (after replies).get? 1 = some { id := 1, cls := 1027, name := "Болт" } ∧
      (after replies).get? 3 = some ⟨3, 1027, "Опора", ["3"], ["103"], []⟩ ∧
      (after unreachable).get? 1 = some ⟨1, 1027, "Рельс", ["1"], ["101"], ["201"]⟩ := by
  have replied := create_replaces_only_given_id .seeded { name := "Болт" }
    (.always (.ok (.obj [("id", .int 1)])))
  have failed := create_replaces_only_given_id .seeded { name := "Болт" }
    (.always (.error (.transport "refused")))
  have given := replied.2.1 ⟨1, 1027, "Болт"⟩ (by decide)
  obtain ⟨shown, made, own⟩ := given.1
  have other : ∀ s ∈ ((Repository.create { name := "Болт" }).against
      (.always (.ok (.obj [("id", .int 1)]))) .seeded).1, 3 ≠ s.id := by
    rw [made]
    simp [own]
  exact ⟨given.2, replied.1 3 _ (by decide) other, failed.2.2 _ rfl 1 _ (by decide)⟩

theorem create_can_replace_local_component :
    ¬ ∀ (s : ComponentStore) (earlier : List ComponentStore), History (s :: earlier) →
      ∀ (input : ComponentInput) (b : Backend) (id : Int) (c : StoredComponent),
        s.get? id = some c → ((Repository.create input).against b s).2.get? id = some c := by
  intro kept
  have run : History _ :=
    .step .seeded (.create { name := "Болт" }) (.always (.error (.transport "refused")))
  have lost := kept _ _ run { name := "Гайка" } (.always (.ok (.obj [("id", .int 4)]))) 4
    { id := 4, cls := 1027, name := "Болт" } (by decide)
  revert lost
  decide

end History

end RefData
