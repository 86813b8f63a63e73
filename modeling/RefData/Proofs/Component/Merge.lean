import Mathlib.Order.Basic
import RefData.Proofs.Component.Snapshot
set_option autoImplicit false

namespace RefData

open Collation

namespace ComponentStore

variable {s t : ComponentStore}

def lastListed? (listed : List Component.Created) (id : Int) : Option Component.Created :=
  (listed.filter (·.id = id)).getLast?

theorem lastListed?_id {listed : List Component.Created} {id : Int} {c : Component.Created}
    (last : lastListed? listed id = some c) : c ∈ listed ∧ c.id = id := by
  simpa using List.mem_filter.1 (List.mem_of_getLast? last)

theorem lastListed?_of_mem {listed : List Component.Created} {c : Component.Created}
    (mem : c ∈ listed) : ∃ last, lastListed? listed c.id = some last := by
  rw [← Option.isSome_iff_exists, lastListed?, List.getLast?_isSome]
  exact List.ne_nil_of_mem (List.mem_filter.2 ⟨mem, by simp⟩)

@[simp] theorem taken_cls (s : ComponentStore) (c : Component.Created) : (s.taken c).cls = c.cls := by
  unfold taken
  cases s.get? c.id <;> rfl

@[simp] theorem taken_name (s : ComponentStore) (c : Component.Created) :
    (s.taken c).name = c.name := by
  unfold taken
  cases s.get? c.id <;> rfl

theorem taken_of_stored {c : StoredComponent} {listed : Component.Created}
    (stored : s.get? listed.id = some c) :
    s.taken listed = { c with cls := listed.cls, name := listed.name } := by
  simp only [taken, stored]

theorem taken_keeps {c : StoredComponent} {listed : Component.Created}
    (stored : s.get? listed.id = some c) :
    (s.taken listed).id = c.id ∧ (s.taken listed).relationIds = c.relationIds := by
  rw [taken_of_stored stored]
  refine ⟨rfl, funext fun kind => ?_⟩
  cases kind <;> rfl

theorem taken_again (s : ComponentStore) (c : Component.Created) :
    { s.taken c with cls := c.cls, name := c.name } = s.taken c := by
  unfold taken
  cases s.get? c.id <;> rfl

theorem taken_mergeOne (s : ComponentStore) (first later : Component.Created) :
    (s.mergeOne first).taken later = s.taken later := by
  by_cases same : later.id = first.id
  · have hit : (s.mergeOne first).get? later.id = some (s.taken first) := by simp [same]
    rw [taken_of_stored hit, taken, taken, same]
    cases s.get? first.id <;> rfl
  · simp [taken, same]

theorem get?_merge (s : ComponentStore) (listed : List Component.Created) (id : Int) :
    (s.merge listed).get? id = ((lastListed? listed id).map s.taken).or (s.get? id) := by
  induction listed generalizing s with
  | nil => rfl
  | cons first rest ih =>
    have unchanged : (s.mergeOne first).taken = s.taken := funext (s.taken_mergeOne first)
    change ((s.mergeOne first).merge rest).get? id = _
    rw [ih, unchanged, get?_mergeOne, lastListed?, lastListed?]
    by_cases here : first.id = id
    · subst here
      cases last : (rest.filter (·.id = first.id)).getLast? <;> simp [List.getLast?_cons, last]
    · simp [here, Ne.symm here]

theorem lastId_merge_le_iff (s : ComponentStore) (listed : List Component.Created) (bound : Int) :
    (s.merge listed).lastId ≤ bound ↔
      s.lastId ≤ bound ∧ ∀ c ∈ listed, s.get? c.id = none → c.id ≤ bound := by
  induction listed generalizing s with
  | nil => simp [merge]
  | cons first rest ih =>
    change ((s.mergeOne first).merge rest).lastId ≤ bound ↔ _
    have absent (id : Int) :
        (s.mergeOne first).get? id = none ↔ id ≠ first.id ∧ s.get? id = none := by
      rw [get?_mergeOne]
      split <;> simp [*]
    simp only [ih, lastId_mergeOne, absent, List.forall_mem_cons]
    cases stored : s.get? first.id with
    | some c => grind
    | none => grind

theorem register_merge (s : ComponentStore) (listed : List Component.Created) :
    (s.merge listed).register = s.register := by
  induction listed generalizing s with
  | nil => rfl
  | cons first rest ih =>
    change ((s.mergeOne first).merge rest).register = _
    rw [ih]
    unfold mergeOne
    funext kind
    cases s.get? first.id <;> cases kind <;> rfl

theorem eq_of_parts (get : ∀ id, s.get? id = t.get? id)
    (last : ∀ bound, s.lastId ≤ bound ↔ t.lastId ≤ bound) (register : s.register = t.register) :
    s = t := by
  have components : s.components = t.components := Dict.ext_get? get
  have lastId : s.lastId = t.lastId := eq_of_forall_ge_iff last
  have objectTypes := congrFun register .objectType
  have parameters := congrFun register .parameter
  have defects := congrFun register .defect
  cases s
  cases t
  simp_all [ComponentStore.register]

-- A listing counts by what is last in it for each id.
theorem merge_congr {listed others : List Component.Created}
    (same : ∀ id, lastListed? listed id = lastListed? others id) (s : ComponentStore) :
    s.merge listed = s.merge others := by
  have covered {listed others : List Component.Created}
      (same : ∀ id, lastListed? listed id = lastListed? others id) {bound : Int}
      (below : ∀ c ∈ others, s.get? c.id = none → c.id ≤ bound) :
      ∀ c ∈ listed, s.get? c.id = none → c.id ≤ bound := by
    intro c mem absent
    obtain ⟨last, found⟩ := lastListed?_of_mem mem
    obtain ⟨memOthers, sameId⟩ := lastListed?_id ((same c.id).symm.trans found)
    rw [← sameId] at absent ⊢
    exact below last memOthers absent
  apply eq_of_parts
  · intro id
    rw [get?_merge, get?_merge, same]
  · intro bound
    rw [lastId_merge_le_iff, lastId_merge_le_iff]
    exact and_congr_right fun _ => ⟨covered fun id => (same id).symm, covered same⟩
  · rw [register_merge, register_merge]

theorem merge_self (s : ComponentStore) (listed : List Component.Created) :
    (s.merge listed).merge listed = s.merge listed := by
  apply eq_of_parts
  · intro id
    rw [get?_merge (s.merge listed)]
    cases last : lastListed? listed id with
    | none => rfl
    | some c =>
      obtain ⟨_, rfl⟩ := lastListed?_id last
      have stored : (s.merge listed).get? c.id = some (s.taken c) := by simp [get?_merge, last]
      rw [Option.map_some, taken_of_stored stored, Option.some_or, stored, taken_again]
  · intro bound
    rw [lastId_merge_le_iff (s.merge listed)]
    refine and_iff_left fun c mem absent => ?_
    obtain ⟨last, found⟩ := lastListed?_of_mem mem
    simp [get?_merge, found] at absent
  · rw [register_merge (s.merge listed)]

end ComponentStore

namespace Repository

open ComponentStore

def listedNames (records : List Json) (id : Int) : List String :=
  ((records.filterMap Component.ofRecord?).filter fun c => readInt64? c.id.toList = some id).map
    (·.name)

def taking (records : List Json) : List Component.Created :=
  mergeable (sortByName (·.name) (records.filterMap Component.ofRecord?))

theorem filter_mergeable (listed : List Component) (id : Int) :
    (mergeable listed).filter (·.id = id) =
      ((listed.filter fun c => readInt64? c.id.toList = some id).map (·.name)).map
        fun name => ⟨id, Component.defaultCls, name⟩ := by
  induction listed with
  | nil => rfl
  | cons c rest ih =>
    unfold mergeable at *
    cases read : readInt64? c.id.toList with
    | none => simpa [read] using ih
    | some number => by_cases same : number = id <;> simpa [read, same] using ih

theorem lastListed?_taking (records : List Json) (id : Int) :
    lastListed? (taking records) id =
      (greatest? (listedNames records id)).map fun name => ⟨id, Component.defaultCls, name⟩ := by
  rw [lastListed?, taking, filter_mergeable, filter_sortByName, map_name_sortByName,
    List.getLast?_map]
  rfl

theorem merge_taking_perm {records permuted : List Json} (perm : permuted.Perm records)
    (s : ComponentStore) : s.merge (taking permuted) = s.merge (taking records) := by
  apply merge_congr
  intro id
  have names : (listedNames permuted id).Perm (listedNames records id) :=
    ((perm.filterMap _).filter _).map _
  rw [lastListed?_taking, lastListed?_taking, greatest?_perm names]

def Lists (b : Backend) (records : List Json) : Prop :=
  (Inquiry.rpcRecords "data/loadComponents" [.int 0]).attempt.against b = .ok records

theorem snapshot_of_lists {b : Backend} {records : List Json} (lists : Lists b records)
    (s : ComponentStore) :
    snapshot.against b s = ((s.merge (taking records)).snapshot, s.merge (taking records)) := by
  have loaded : Component.load.attempt.against b =
      .ok (sortByName (·.name) (records.filterMap Component.ofRecord?)) := by
    rw [Component.load, Inquiry.attempt_bind, Fetch.against_bind, lists]
    rfl
  rw [snapshot_against, loaded]
  rfl

theorem get?_merge_taking (s : ComponentStore) (records : List Json) (id : Int) :
    (s.merge (taking records)).get? id =
      ((greatest? (listedNames records id)).map fun name =>
        s.taken ⟨id, Component.defaultCls, name⟩).or (s.get? id) := by
  rw [get?_merge, lastListed?_taking, Option.map_map]
  rfl

/-- A listing is taken over in whatever order it comes, and once: each listed component gets the
greatest of the names listed for it, and nothing else is touched. -/
theorem snapshot_takes_listing_in_any_order (s : ComponentStore) {b other : Backend}
    {records permuted : List Json} (lists : Lists b records) (listsToo : Lists other permuted)
    (perm : permuted.Perm records) :
    let shown := (snapshot.against b s).1
    let after := (snapshot.against b s).2
    snapshot.against other s = (shown, after) ∧
    (∀ id, listedNames records id ≠ [] → ∃ c, after.get? id = some c ∧ c.cls = 1027 ∧
      c.name ∈ listedNames records id ∧
      ∀ name ∈ listedNames records id, compareNames name c.name ≠ .gt) ∧
    (∀ id, listedNames records id = [] → after.get? id = s.get? id) ∧
    (∀ id c, s.get? id = some c → ∃ kept, after.get? id = some kept ∧
      kept.id = c.id ∧ kept.relationIds = c.relationIds) ∧
    after.register = s.register ∧
    snapshot.against other after = (shown, after) := by
  have takes (t : ComponentStore) : snapshot.against other t =
      ((t.merge (taking records)).snapshot, t.merge (taking records)) := by
    rw [snapshot_of_lists listsToo, merge_taking_perm perm]
  rw [snapshot_of_lists lists]
  refine ⟨takes s, ?_, ?_, ?_, register_merge s _, ?_⟩
  · intro id listed
    cases found : greatest? (listedNames records id) with
    | none => exact (listed ((greatest?_eq_none_iff _).1 found)).elim
    | some name =>
      obtain ⟨mem, greatest⟩ := greatest?_eq_some found
      refine ⟨s.taken ⟨id, Component.defaultCls, name⟩, ?_, ?_, ?_, ?_⟩
      · rw [get?_merge_taking, found]
        rfl
      · exact taken_cls s _
      · rw [taken_name]
        exact mem
      · rw [taken_name]
        exact fun other mem => bne_iff_ne.1 (greatest other mem)
  · intro id unlisted
    rw [get?_merge_taking, (greatest?_eq_none_iff _).2 unlisted]
    rfl
  · intro id c stored
    rw [get?_merge_taking, stored]
    cases greatest? (listedNames records id) with
    | none => exact ⟨c, rfl, rfl, rfl⟩
    | some name => exact ⟨s.taken ⟨id, Component.defaultCls, name⟩, rfl, taken_keeps stored⟩
  · rw [takes, merge_self]

def railRecords : List Json :=
  [.obj [("id", .str "1"), ("name", .str "Рельс Р65")],
    .obj [("ID", .str "+7"), ("NAME", .str "Болт")],
    .obj [("id", .str "01"), ("name", .str "рельс")]]

theorem snapshot_takes_rail_in_two_spellings :
    let listing (records : List Json) := Backend.always (.ok (.obj [("items", .arr records)]))
    let after := (snapshot.against (listing railRecords) .seeded).2
    Lists (listing railRecords) railRecords ∧ railRecords.reverse.Perm railRecords ∧
      snapshot.against (listing railRecords.reverse) .seeded =
        snapshot.against (listing railRecords) .seeded ∧
      listedNames railRecords 1 = ["Рельс Р65", "рельс"] ∧
      (∃ c, after.get? 1 = some c ∧ c.cls = 1027 ∧ c.name ∈ listedNames railRecords 1 ∧
        ∀ name ∈ listedNames railRecords 1, compareNames name c.name ≠ .gt) ∧
      after.get? 3 = some ⟨3, 1027, "Опора", ["3"], ["103"], []⟩ := by
  have lists (records : List Json) :
      Lists (.always (.ok (.obj [("items", .arr records)]))) records := rfl
  have perm := railRecords.reverse_perm
  have names : listedNames railRecords 1 = ["Рельс Р65", "рельс"] := by decide +kernel
  have unlisted : listedNames railRecords 3 = [] := by decide +kernel
  obtain ⟨same, listed, others, _⟩ := snapshot_takes_listing_in_any_order .seeded
    (lists railRecords) (lists railRecords.reverse) perm
  exact ⟨rfl, perm, same, names, listed 1 (by simp [names]), others 3 unlisted⟩

end Repository

end RefData
