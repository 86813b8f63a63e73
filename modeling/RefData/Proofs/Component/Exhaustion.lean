import RefData.Proofs.Component.Isolation
import RefData.Proofs.Component.Merge
import RefData.Proofs.Record.Integer
set_option autoImplicit false

namespace RefData

theorem Record.le_of_integer? {record : Record} {field : String} {n : Int}
    (read : record.integer? field = some n) : n ≤ maxInt64 := by
  obtain ⟨key, -, found⟩ := List.exists_of_findSome?_eq_some read
  obtain ⟨v, -, value⟩ := Option.bind_eq_some_iff.1 found
  exact Json.le_of_integer? value

theorem le_of_readInt64? {cs : List Char} {n : Int} (read : readInt64? cs = some n) :
    n ≤ maxInt64 := by
  have fits := (Option.filter_eq_some_iff.1 read).2
  simp only [Bool.and_eq_true, decide_eq_true_eq] at fits
  exact fits.2

namespace Component

variable {name : String} {b : Backend} {c : Created}

theorem Created.id_le_of_ofReply {reply : Json} (made : ofReply name reply = .ok c) :
    c.id ≤ maxInt64 := by
  unfold ofReply at made
  cases record : record? reply with
  | none => simp [record] at made
  | some raw =>
    cases number : Record.integer? ⟨aliases, raw⟩ "id" with
    | none => simp [record, number] at made
    | some id =>
      simp only [record, number] at made
      cases made
      exact Record.le_of_integer? number

theorem id_le_of_create (made : (create name).attempt.against b = .ok c) : c.id ≤ maxInt64 := by
  rw [attempt_create] at made
  change (b.answer _ b.state).1.bind (Created.ofReply name) = .ok c at made
  cases reply : (b.answer (.rpc "data/saveComponents" [.str "ins", creationBody name]) b.state).1 with
  | error reason => simp [reply, Except.bind] at made
  | ok shown => exact Created.id_le_of_ofReply (by simpa [reply, Except.bind] using made)

end Component

theorem ComponentStore.id_le_of_mergeable {listed : List Component} {c : Component.Created}
    (mem : c ∈ mergeable listed) : c.id ≤ maxInt64 := by
  obtain ⟨component, -, numbered⟩ := List.mem_filterMap.1 mem
  obtain ⟨id, read, rfl⟩ := Option.map_eq_some_iff.1 numbered
  exact le_of_readInt64? read

def Component.givenIds : Except Failure Created → List Int
  | .ok c => [c.id]
  | .error _ => []

def ComponentStore.ownCount (s : ComponentStore) : Except Failure Component.Created → Int
  | .ok _ => 0
  | .error _ => if s.lastId < maxInt64 then 1 else 0

namespace Operation

def creation? (op : Operation) (b : Backend) (s : ComponentStore) :
    Option (Except Failure Component.Created) :=
  match op with
  | .create input => some ((Component.create input.proposedName).attempt.against b)
  | .update id input =>
    match s.get? id with
    | none => some ((Component.create input.proposedName).attempt.against b)
    | some _ => none
  | _ => none

def given (op : Operation) (b : Backend) (s : ComponentStore) : List Int :=
  match op with
  | .snapshot =>
    match Component.load.attempt.against b with
    | .ok listed => (ComponentStore.mergeable listed).map (·.id)
    | .error _ => []
  | _ => ((op.creation? b s).map Component.givenIds).getD []

def allotted (op : Operation) (b : Backend) (s : ComponentStore) : Int :=
  ((op.creation? b s).map s.ownCount).getD 0

variable {op : Operation} {b : Backend} {s : ComponentStore}

theorem lastId_add_allotted_le (within : s.lastId ≤ maxInt64) :
    s.lastId + op.allotted b s ≤ maxInt64 := by
  unfold allotted
  cases op.creation? b s with
  | none => simpa using within
  | some created =>
    cases created with
    | ok c => simpa [ComponentStore.ownCount] using within
    | error reason =>
      simp only [Option.map_some, Option.getD_some, ComponentStore.ownCount]
      split <;> omega

theorem eq_of_creation? {created : Except Failure Component.Created}
    (asked : op.creation? b s = some created) :
    ∃ name, (Component.create name).attempt.against b = created := by
  cases op with
  | create input => exact ⟨_, Option.some.inj asked⟩
  | update id input =>
    unfold creation? at asked
    cases stored : s.get? id with
    | none =>
      simp only [stored] at asked
      exact ⟨_, Option.some.inj asked⟩
    | some existing => simp [stored] at asked
  | snapshot | delete | ensure => cases asked

theorem given_le {id : Int} (mem : id ∈ op.given b s) : id ≤ maxInt64 := by
  have created (asked : id ∈ ((op.creation? b s).map Component.givenIds).getD []) :
      id ≤ maxInt64 := by
    cases outcome : op.creation? b s with
    | none => simp [outcome] at asked
    | some created =>
      obtain ⟨name, made⟩ := eq_of_creation? outcome
      cases created with
      | error reason => simp [outcome, Component.givenIds] at asked
      | ok c =>
        rw [outcome, Option.map_some, Option.getD_some, Component.givenIds,
          List.mem_singleton] at asked
        exact asked ▸ Component.id_le_of_create made
  cases op with
  | snapshot =>
    unfold given at mem
    cases listing : Component.load.attempt.against b with
    | error reason => simp [listing] at mem
    | ok listed =>
      simp only [listing] at mem
      obtain ⟨c, listedToo, rfl⟩ := List.mem_map.1 mem
      exact ComponentStore.id_le_of_mergeable listedToo
  | create | update | delete | ensure => exact created mem

end Operation

namespace ComponentStore

variable {s t : ComponentStore}

-- The counter of the later store is the greatest of the earlier one, moved up by the ids that were
-- given out, and the ids that came from elsewhere.
structure Counts (s : ComponentStore) (allotted : Int) (given : List Int) (t : ComponentStore) :
    Prop where
  numbered : t.Numbered
  counter : ∀ bound, t.lastId ≤ bound ↔ s.lastId + allotted ≤ bound ∧ ∀ id ∈ given, id ≤ bound

theorem counts_of_same (numbered : t.Numbered) (same : t.lastId = s.lastId) : Counts s 0 [] t :=
  ⟨numbered, fun bound => by simp [same]⟩

theorem counts_merge (numbered : s.Numbered) (listed : List Component.Created) :
    Counts s 0 (listed.map (·.id)) (s.merge listed) := by
  refine ⟨(numbered.merge listed).1, fun bound => ?_⟩
  rw [lastId_merge_le_iff, Int.add_zero, List.forall_mem_map]
  refine and_congr_right fun covered => forall₂_congr fun c _ => ?_
  -- An id that is stored is passed already.
  cases stored : s.get? c.id with
  | none => simp
  | some known => simpa using (numbered.passed c.id known stored).trans covered

theorem counts_put (numbered : s.Numbered) (c : StoredComponent) : Counts s 0 [c.id] (s.put c) := by
  refine ⟨numbered.put c, fun bound => ?_⟩
  rw [lastId_put, Int.max_le]
  simp

theorem counts_allot (numbered : s.Numbered) {c : StoredComponent} (own : c.id = s.lastId + 1) :
    Counts s 1 [] (s.put c) := by
  refine ⟨numbered.put c, fun bound => ?_⟩
  rw [lastId_put, own, max_eq_right (by omega)]
  simp

theorem counts_settle (numbered : s.Numbered) (created : Except Failure Component.Created)
    (input : ComponentInput) :
    Counts s (s.ownCount created) (Component.givenIds created) (s.settle created input).2 := by
  rw [settle_eq]
  cases created with
  | ok c => exact counts_put numbered (input.apply { id := c.id, cls := c.cls, name := c.name })
  | error reason =>
    cases next : nextNumber? s.lastId with
    | none =>
      have full := Int.not_lt.2 (nextNumber?_eq_none_iff.1 next)
      simpa [newcomer?, next, ownCount, full, Component.givenIds] using counts_of_same numbered rfl
    | some number =>
      obtain ⟨below, rfl⟩ := nextNumber?_eq_some_iff.1 next
      simpa [newcomer?, next, ownCount, below, Component.givenIds] using counts_allot numbered rfl

theorem counts_after {op : Operation} {b : Backend} (keyed : s.Keyed) (numbered : s.Numbered) :
    Counts s (op.allotted b s) (op.given b s) (op.after b s) := by
  cases op with
  | snapshot =>
    simp only [Operation.given, Operation.after, Repository.snapshot_against]
    cases Component.load.attempt.against b with
    | ok listed => exact counts_merge numbered _
    | error reason => exact counts_of_same numbered rfl
  | create input =>
    rw [Operation.after, Repository.create_against]
    exact counts_settle numbered _ input
  | update id input =>
    simp only [Operation.allotted, Operation.given, Operation.creation?, Operation.after,
      Repository.update_against]
    cases stored : s.get? id with
    | none => exact counts_settle numbered _ input
    | some existing =>
      exact counts_of_same (numbered.put _) (numbered.lastId_put_apply keyed stored input)
  | delete id =>
    rw [Operation.after, Repository.delete_against]
    exact counts_of_same (numbered.remove id) rfl
  | ensure kind name => exact counts_of_same (numbered.ensure kind name) (lastId_ensure s kind name)

end ComponentStore

-- A run with its marks: where the counter started and each id that the backend gave, every one
-- moved up by the ids that the store has given out itself since then.
inductive Course : ComponentStore → List Int → Prop
  | empty : Course .empty [0]
  | seeded : Course .seeded [3]
  | step {s : ComponentStore} {marks : List Int} (run : Course s marks) (op : Operation)
      (b : Backend) :
      Course (op.after b s) (op.given b s ++ marks.map (· + op.allotted b s))

namespace Course

open ComponentStore

variable {s : ComponentStore} {marks : List Int}

theorem exists_course_iff : (∃ marks, Course s marks) ↔ ∃ earlier, History (s :: earlier) := by
  constructor
  · rintro ⟨marks, run⟩
    induction run with
    | empty => exact ⟨[], .empty⟩
    | seeded => exact ⟨[], .seeded⟩
    | step _ op b ih =>
      obtain ⟨earlier, before⟩ := ih
      exact ⟨_, before.step op b⟩
  · rintro ⟨earlier, run⟩
    generalize stores : s :: earlier = all at run
    induction run generalizing s earlier with
    | empty =>
      cases stores
      exact ⟨_, .empty⟩
    | seeded =>
      cases stores
      exact ⟨_, .seeded⟩
    | step _ op b ih =>
      cases stores
      obtain ⟨marks, before⟩ := ih _ rfl
      exact ⟨_, before.step op b⟩

theorem keyed (run : Course s marks) : s.Keyed := by
  obtain ⟨earlier, before⟩ := exists_course_iff.1 ⟨marks, run⟩
  exact before.keyed s List.mem_cons_self

theorem numbered (run : Course s marks) : s.Numbered := by
  obtain ⟨earlier, before⟩ := exists_course_iff.1 ⟨marks, run⟩
  exact before.numbered s List.mem_cons_self

theorem counted (run : Course s marks) :
    s.lastId ≤ maxInt64 ∧ ∀ bound, s.lastId ≤ bound ↔ ∀ m ∈ marks, m ≤ bound := by
  induction run with
  | empty =>
    have last : ComponentStore.empty.lastId = 0 := rfl
    exact ⟨by decide, fun bound => by simp [last]⟩
  | seeded =>
    have last : ComponentStore.seeded.lastId = 3 := by decide
    exact ⟨by decide, fun bound => by simp [last]⟩
  | @step s marks before op b ih =>
    obtain ⟨within, counter⟩ := ih
    have counts : Counts s (op.allotted b s) (op.given b s) (op.after b s) :=
      counts_after before.keyed before.numbered
    refine ⟨(counts.counter maxInt64).2 ⟨Operation.lastId_add_allotted_le within,
      fun _ => Operation.given_le⟩, fun bound => ?_⟩
    have shifted := counter (bound - op.allotted b s)
    simp only [← Int.add_le_iff_le_sub] at shifted
    rw [counts.counter, shifted, List.forall_mem_append, List.forall_mem_map, and_comm]

theorem lastId_mem (run : Course s marks) : s.lastId ∈ marks := by
  obtain ⟨-, counter⟩ := run.counted
  by_contra other
  have below : ∀ m ∈ marks, m ≤ s.lastId - 1 := fun m mem => by
    have le := (counter s.lastId).1 (Int.le_refl _) m mem
    have ne : m ≠ s.lastId := fun same => other (same ▸ mem)
    omega
  have := (counter (s.lastId - 1)).2 below
  omega

/-- The store runs out of ids of its own when an id that the backend gave, with those that the store
has given out since, comes to the greatest number, and not before. Until then each is the next one
and positive. -/
theorem own_ids_run_out_at_greatest_mark (run : Course s marks) {input : ComponentInput}
    {b : Backend} {reason : Failure}
    (failed : (Component.create input.proposedName).attempt.against b = .error reason) :
    let made := ((Repository.create input).against b s).1
    (∀ m ∈ marks, m ≤ maxInt64) ∧
    ((∀ m ∈ marks, m < maxInt64) ↔ s.lastId < maxInt64 ∧
      ∃ shown, made = some shown ∧ shown.id = s.lastId + 1 ∧ 0 < shown.id) ∧
    (maxInt64 ∈ marks ↔ s.lastId = maxInt64 ∧ (Repository.create input).against b s = (none, s)) := by
  obtain ⟨within, counter⟩ := run.counted
  have bounds := (counter maxInt64).1 within
  have started := run.numbered.started
  have room : s.lastId < maxInt64 ↔ ∀ m ∈ marks, m < maxInt64 := by
    simpa only [Int.le_sub_one_iff] using counter (maxInt64 - 1)
  have reached : maxInt64 ∈ marks ↔ s.lastId = maxInt64 := by
    refine ⟨fun mem => ?_, fun same => same ▸ run.lastId_mem⟩
    have := (counter s.lastId).1 (Int.le_refl _) maxInt64 mem
    omega
  rw [← room, reached]
  refine ⟨bounds, ?_, ?_⟩
  all_goals
    rcases History.failed_create (s := s) failed with ⟨below, c, own, made⟩ | ⟨full, made⟩
  · exact ⟨fun _ => ⟨below, s.loaded c, by rw [made], own, by rw [loaded_id]; omega⟩, And.left⟩
  · exact ⟨fun below => by omega, And.left⟩
  · exact ⟨fun same => by omega, And.left⟩
  · exact ⟨fun same => ⟨same, made⟩, And.left⟩

theorem own_id_is_greatest_number :
    let refused := Backend.always (.error (.transport "refused"))
    let s := (Operation.create { name := "Болт" }).after
      (.always (.ok (.obj [("id", .int (maxInt64 - 1))]))) .empty
    Course s [maxInt64 - 1, 0] ∧ ∃ shown,
      ((Repository.create { name := "Гайка" }).against refused s).1 = some shown ∧
        shown.id = maxInt64 := by
  intro refused s
  have run : Course s [maxInt64 - 1, 0] := Course.empty.step _ _
  have room : ∀ m ∈ [maxInt64 - 1, 0], m < maxInt64 := by decide
  have last : s.lastId = maxInt64 - 1 := by decide
  have failed : (Component.create (ComponentInput.proposedName { name := "Гайка" })).attempt.against
      refused = .error (.transport "refused") := rfl
  obtain ⟨-, shown, made, own, -⟩ := (own_ids_run_out_at_greatest_mark run failed).2.1.1 room
  exact ⟨run, shown, made, own.trans (by rw [last]; decide)⟩

end Course

theorem History.own_ids_can_run_out :
    ¬ ∀ (s : ComponentStore) (earlier : List ComponentStore), History (s :: earlier) →
      ∀ (input : ComponentInput) (b : Backend) (reason : Failure),
        (Component.create input.proposedName).attempt.against b = .error reason →
          s.lastId < maxInt64 ∧
            ∃ shown, ((Repository.create input).against b s).1 = some shown ∧ 0 < shown.id := by
  intro bounded
  have run : History _ :=
    .step .empty (.create { name := "Болт" }) (.always (.ok (.obj [("id", .int maxInt64)])))
  have below := (bounded _ _ run { name := "Гайка" } (.always (.error (.transport "refused"))) _ rfl).1
  revert below
  decide

end RefData
