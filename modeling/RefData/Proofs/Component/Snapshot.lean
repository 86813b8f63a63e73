import RefData.Proofs.Collation
import RefData.Proofs.Component.Run
set_option autoImplicit false

namespace RefData

namespace ComponentStore

variable {s t : ComponentStore} {c : StoredComponent}

theorem loaded_congr (registers : t.register = s.register) : t.loaded = s.loaded := by
  have entry : t.entry? = s.entry? := by
    funext kind id
    unfold entry?
    rw [registers]
  funext c
  rw [loaded, loaded, relations, relations, relations, entry]
  rfl

theorem directory_congr (registers : t.register = s.register) : t.directory = s.directory := by
  funext kind
  rw [directory, directory, registers]

theorem Keyed.all_filter (keyed : s.Keyed) (keep : Int → Bool) :
    s.all.filter (fun c => keep c.id) =
      (s.components.entries.filter fun e => keep e.1).map Prod.snd := by
  rw [all, Dict.values, List.filter_map]
  congr 1
  apply List.filter_congr
  rintro ⟨id, c⟩ mem
  simp [keyed id c ((s.components.mem_entries id c).1 mem)]

theorem Keyed.items_filter (keyed : s.Keyed) (keep : Int → Bool) :
    s.snapshot.items.filter (fun item => keep item.id) =
      Collation.sortByName (·.name)
        (((s.components.entries.filter fun e => keep e.1).map Prod.snd).map s.loaded) := by
  rw [snapshot, Collation.filter_sortByName, List.filter_map, ← keyed.all_filter]
  rfl

theorem Keyed.items_of_id (keyed : s.Keyed) (id : Int) :
    s.snapshot.items.filter (·.id = id) = ((s.get? id).map s.loaded).toList := by
  rw [keyed.items_filter (· = id), Dict.entries_filter_key, ← get?]
  cases s.get? id <;> simp [Collation.sortByName]

theorem Keyed.items_beside (keyed : s.Keyed) (id : Int) :
    s.snapshot.items.filter (·.id ≠ id) =
      Collation.sortByName (·.name) ((s.components.erase id).values.map s.loaded) := by
  rw [keyed.items_filter (· ≠ id), Dict.values, Dict.entries_erase]

theorem Writes.shows (writes : Writes s c t) (keyed : s.Keyed) :
    t.snapshot.items.filter (·.id = c.id) = [s.loaded c] := by
  rw [(writes.keyed keyed).items_of_id, writes.get?, if_pos rfl, loaded_congr writes.register]
  rfl

end ComponentStore

structure ComponentsSnapshot.AgreeBeside (id : Int) (shown later : ComponentsSnapshot) : Prop where
  items : later.items.filter (·.id ≠ id) = shown.items.filter (·.id ≠ id)
  objectTypes : later.objectTypes = shown.objectTypes
  parameters : later.parameters = shown.parameters
  defects : later.defects = shown.defects

namespace ComponentStore

variable {s t : ComponentStore} {c : StoredComponent}

theorem Writes.frame (writes : Writes s c t) (keyed : s.Keyed) :
    s.snapshot.AgreeBeside c.id t.snapshot := by
  have directories := directory_congr writes.register
  refine ⟨?_, ?_, ?_, ?_⟩
  · rw [(writes.keyed keyed).items_beside, keyed.items_beside, writes.components,
      Dict.erase_insert, loaded_congr writes.register]
  all_goals simp only [snapshot, directories]

theorem Keyed.snapshot_remove (keyed : s.Keyed) (id : Int) :
    (s.remove id).snapshot =
      { s.snapshot with items := s.snapshot.items.filter (·.id ≠ id) } := by
  have registers : (s.remove id).register = s.register := by
    funext kind
    cases kind <;> rfl
  rw [keyed.items_beside, snapshot, loaded_congr registers, directory_congr registers]
  rfl

end ComponentStore

namespace Repository

variable {s : ComponentStore}

-- An edit of an id that is not stored creates a component, so both ways of writing are one.
inductive Edit : Repository (Option LoadedComponent) → Prop
  | create (input : ComponentInput) : Edit (create input)
  | update (id : Int) (input : ComponentInput) : Edit (update id input)

theorem Edit.cases {edit : Repository (Option LoadedComponent)} (isEdit : Edit edit) (b : Backend)
    (s : ComponentStore) : (∃ c, edit.against b s = (some (s.loaded c), s.put c)) ∨
      maxInt64 ≤ s.lastId ∧ edit.against b s = (none, s) := by
  cases isEdit with
  | create input => exact (create_cases input b s).imp_left fun ⟨_, made⟩ => ⟨_, made⟩
  | update id input => exact (update_cases id input b s).imp_left fun ⟨_, made⟩ => ⟨_, made⟩

def ListingFails (b : Backend) : Prop := ∃ reason, Component.load.attempt.against b = .error reason

theorem snapshot_of_listingFails {b : Backend} (fails : ListingFails b) (s : ComponentStore) :
    snapshot.against b s = (s.snapshot, s) := by
  obtain ⟨reason, failed⟩ := fails
  rw [snapshot_against, failed]

end Repository

namespace History

open ComponentStore

variable {s : ComponentStore} {earlier : List ComponentStore}

/-- With the listing out of reach, an edit is shown as it was answered, a deletion is not shown, and
nothing else changes. An edit has no answer only if there is no id left for the component. -/
theorem edit_is_shown (run : History (s :: earlier)) {before after : Backend}
    (failsBefore : Repository.ListingFails before) (failsAfter : Repository.ListingFails after)
    (b : Backend) :
    let shown := (Repository.snapshot.against before s).1
    (∀ edit, Repository.Edit edit →
      let later := (Repository.snapshot.against after (edit.against b s).2).1
      (∀ made, (edit.against b s).1 = some made →
        later.items.filter (·.id = made.id) = [made] ∧ shown.AgreeBeside made.id later) ∧
      ((edit.against b s).1 = none → maxInt64 ≤ s.lastId ∧ (edit.against b s).2 = s)) ∧
    ∀ id, (Repository.snapshot.against after ((Repository.delete id).against b s).2).1 =
      { shown with items := shown.items.filter (·.id ≠ id) } := by
  have keyed := run.keyed s (by simp)
  simp only [Repository.snapshot_of_listingFails failsBefore,
    Repository.snapshot_of_listingFails failsAfter]
  constructor
  · intro edit isEdit
    rcases isEdit.cases b s with ⟨c, edited⟩ | ⟨full, edited⟩
    · rw [edited]
      refine ⟨fun made answered => ?_, fun none => by cases none⟩
      cases answered
      exact ⟨(s.writes_put c).shows keyed, (s.writes_put c).frame keyed⟩
    · rw [edited]
      exact ⟨fun made answered => (by cases answered), fun _ => ⟨full, rfl⟩⟩
  · intro id
    rw [Repository.delete_against]
    exact keyed.snapshot_remove id

theorem edit_of_missing_is_shown :
    let unreachable := Backend.always (.error (.transport "refused"))
    let edit := Repository.update 9 { name := " Болт ", parameterIds := ["101", "7"] }
    let made : LoadedComponent :=
      ⟨4, 1027, "Болт", [], [⟨"101", "Температура", "101-Температура", some "1041"⟩], []⟩
    Repository.ListingFails unreachable ∧ (edit.against unreachable .seeded).1 = some made ∧
      ((Repository.snapshot.against unreachable
        (edit.against unreachable .seeded).2).1).items.filter (·.id = made.id) = [made] := by
  intro unreachable edit made
  have fails : Repository.ListingFails unreachable := ⟨_, rfl⟩
  have answered : (edit.against unreachable .seeded).1 = some made := by decide
  have isEdit : Repository.Edit edit := .update 9 _
  have shows := ((edit_is_shown .seeded fails fails unreachable).1 edit isEdit).1 made answered
  exact ⟨fails, answered, shows.1⟩

end History

end RefData
