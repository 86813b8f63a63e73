import RefData.Proofs.Component.Naming
set_option autoImplicit false

namespace RefData

namespace Register

variable {r : Register} {name placeholder : String} {option : DirectoryOption}

-- Nothing is asked of the other entries: whatever stands there, none of them has the name.
theorem find?_insert (unused : r.Unused name) (same : Text.fold option.name = Text.fold name) :
    (r.insert option).find? name = some option := by
  cases found : (r.insert option).find? name with
  | none =>
    have missing := find?_eq_none_iff.1 found option.id option (by simp)
    exact absurd same missing
  | some other =>
    obtain ⟨id, stored⟩ := (Dict.mem_values _ _).1 (List.mem_of_find?_eq_some found)
    have alike : Text.fold other.name = Text.fold name := by simpa using List.find?_some found
    rw [get?_insert] at stored
    split at stored
    · exact stored.symm
    · exact absurd alike (unused id other stored)

theorem lt_lastId_extended (r : Register) (placeholder name : String) :
    r.lastId < (r.extended placeholder name).lastId := by
  have grows := lastId_le_insert { r with lastId := r.lastId + 1 } (r.made placeholder name)
  change r.lastId + 1 ≤ (r.extended placeholder name).lastId at grows
  omega

theorem ensure_extended_ne (unused : r.Unused name)
    (other : Text.fold (r.made placeholder name).name ≠ Text.fold name) :
    ((r.extended placeholder name).ensure placeholder name).1 ≠ some (r.made placeholder name) := by
  have still : (r.extended placeholder name).Unused name := unused_insert unused other
  rcases (r.extended placeholder name).ensure_cases placeholder name with
    ⟨option, found, -⟩ | ⟨-, -, ensured⟩ | ⟨-, -, ensured⟩
  · rw [find?_eq_none_iff.2 still] at found
    cases found
  · rw [ensured]
    intro same
    -- The second id stands for a greater number than the first.
    have ids := congrArg DirectoryOption.id (Option.some.inj same)
    have numbers := intText_injective (String.ofList_injective ids)
    have grows := r.lt_lastId_extended placeholder name
    omega
  · rw [ensured]
    exact (Option.some_ne_none _).symm

theorem fold_name_made (visible : Text.fold placeholder ≠ "") :
    Text.fold (r.made placeholder name).name = Text.fold name ↔ Text.trim name ≠ "" := by
  by_cases blank : Text.trim name = ""
  · simp [made, blank, Text.fold_of_blank blank, visible]
  · simp [made, blank, Text.fold_trim]

theorem ensure_eq_none_iff :
    (r.ensure placeholder name).1 = none ↔ maxInt64 ≤ r.lastId ∧ r.Unused name := by
  rcases r.ensure_cases placeholder name with
    ⟨option, found, ensured⟩ | ⟨unused, below, ensured⟩ | ⟨unused, full, ensured⟩
  · have used : ¬ r.Unused name := by simp [← find?_eq_none_iff, found]
    simp [ensured, used]
  · simp [ensured, below]
  · simp [ensured, full, unused]

theorem ensure_again_iff (visible : Text.fold placeholder ≠ "") :
    (r.ensure placeholder name).2.ensure placeholder name = r.ensure placeholder name ↔
      Text.trim name ≠ "" ∨ maxInt64 ≤ r.lastId ∨ ¬ r.Unused name := by
  rcases r.ensure_cases placeholder name with
    ⟨option, found, ensured⟩ | ⟨unused, below, ensured⟩ | ⟨unused, full, ensured⟩
  · have used : ¬ r.Unused name := by simp [← find?_eq_none_iff, found]
    simp [ensured, used]
  · have room : ¬ maxInt64 ≤ r.lastId := Int.not_le.2 below
    rw [ensured, ← fold_name_made visible]
    constructor
    · intro again
      by_contra neither
      exact ensure_extended_ne unused (fun same => neither (.inl same)) (by rw [again])
    · rintro (same | full | used)
      · have found := find?_insert (r := { r with lastId := r.lastId + 1 }) unused same
        exact ensure_of_found found placeholder
      · exact absurd full room
      · exact absurd unused used
  · simp [ensured, full]

end Register

theorem RelationKind.fold_placeholder_ne (kind : RelationKind) :
    Text.fold kind.placeholder ≠ "" := by
  have plain : Text.isPlain kind.placeholder = true := by cases kind <;> decide +kernel
  rw [Text.fold_of_isPlain plain]
  cases kind <;> decide +kernel

namespace ComponentStore

theorem ensure_again_eq_iff (s : ComponentStore) (kind : RelationKind) (name : String) :
    (s.ensure kind name).2.ensure kind name = s.ensure kind name ↔
      ((s.register kind).ensure kind.placeholder name).2.ensure kind.placeholder name =
        (s.register kind).ensure kind.placeholder name := by
  cases kind <;> simp [ensure, register, setRegister, Prod.ext_iff]

/-- Whatever the store, a name that is asked for twice in a row names one entry and the second
request changes nothing, unless the name is blank and no entry has a name that folds to nothing.
There is no entry to answer with when none has the name and there is no number left for one. -/
theorem second_request_finds_first_iff (s : ComponentStore) (kind : RelationKind) (name : String) :
    ((s.ensure kind name).1 = none ↔ maxInt64 ≤ (s.register kind).lastId ∧
      ∀ id o, s.entry? kind id = some o → Text.fold o.name ≠ Text.fold name) ∧
    ((s.ensure kind name).2.ensure kind name = s.ensure kind name ↔
      Text.trim name ≠ "" ∨ maxInt64 ≤ (s.register kind).lastId ∨
        ∃ id o, s.entry? kind id = some o ∧ Text.fold o.name = "") := by
  refine ⟨Register.ensure_eq_none_iff, ?_⟩
  rw [ensure_again_eq_iff, Register.ensure_again_iff kind.fold_placeholder_ne]
  by_cases blank : Text.trim name = ""
  · simp [Register.Unused, entry?_eq, blank, Text.fold_of_blank blank]
  · simp [blank]

theorem second_request_can_add_entry :
    ¬ ∀ (s : ComponentStore) (earlier : List ComponentStore), History (s :: earlier) →
      ∀ (kind : RelationKind) (name : String),
        (s.ensure kind name).2.ensure kind name = s.ensure kind name := by
  intro again
  have kept := (ensure_again_eq_iff _ _ _).1 (again .empty [] .empty .objectType " ")
  rcases (Register.ensure_again_iff RelationKind.objectType.fold_placeholder_ne).1 kept with
    filled | full | used
  · exact filled (by decide)
  · revert full
    decide
  · refine used fun id o stored => ?_
    cases stored

end ComponentStore

end RefData
