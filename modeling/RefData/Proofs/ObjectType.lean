import RefData.Catalog.ObjectType
set_option autoImplicit false

namespace RefData.ObjectType

def textAt? (items : List Json) (i : Nat) : Option String := items[i]?.bind itemText?

-- How many texts can be read before a position: the place of its own text among those read.
def placeOf (items : List Json) (i : Nat) : Nat :=
  (items.take i).countP fun item => (itemText? item).isSome

theorem getElem?_filterMap_iff {items : List Json} {place : Nat} {text : String} :
    (items.filterMap itemText?)[place]? = some text ↔
      ∃ i, textAt? items i = some text ∧ placeOf items i = place := by
  induction items generalizing place with
  | nil => simp [textAt?]
  | cons item rest ih =>
    -- The first position is apart; every other one is a position of the rest.
    have positions : (∃ i, textAt? (item :: rest) i = some text ∧
        placeOf (item :: rest) i = place) ↔
      itemText? item = some text ∧ place = 0 ∨ ∃ i, textAt? rest i = some text ∧
        placeOf rest i + (if (itemText? item).isSome then 1 else 0) = place := by
      constructor
      · rintro ⟨i, read, before⟩
        cases i with
        | zero => exact .inl ⟨read, before.symm⟩
        | succ i => exact .inr ⟨i, read, by simpa [placeOf, List.countP_cons] using before⟩
      · rintro (⟨read, rfl⟩ | ⟨i, read, before⟩)
        · exact ⟨0, read, rfl⟩
        · exact ⟨i + 1, read, by simpa [placeOf, List.countP_cons] using before⟩
    rw [positions]
    cases read : itemText? item with
    | none => simp [read, ih]
    | some own =>
      cases place with
      | zero => simp [read]
      | succ place => simp [read, ih]

theorem getElem?_namesFor {ids : List String} (components : Lookup) (given : List String)
    {place : Nat} {component : String} (stands : ids[place]? = some component) :
    (namesFor components ids given)[place]? =
      some (((components.nameOf? (some component)).or given[place]?).getD component) := by
  have filled : ids.isEmpty = false := by
    cases ids with
    | nil => simp at stands
    | cons _ _ => rfl
  simp [namesFor, filled, List.getElem?_zipIdx, stands]

theorem length_namesFor (components : Lookup) {ids : List String} (given : List String)
    (filled : ids ≠ []) : (namesFor components ids given).length = ids.length := by
  simp [namesFor, filled]

theorem ofRecord?_of_named {raw : Json} {id name : String}
    (hasId : (Record.mk aliases raw).text? "id" = some id)
    (hasName : (Record.mk aliases raw).text? "name" = some name) (components : Lookup) :
    ∃ t, ofRecord? raw components = some t ∧ t.id = id ∧ t.name = name ∧
      t.componentIds = texts ((Record.mk aliases raw).value? "componentIds") ∧
      t.componentNames = namesFor components t.componentIds
        (texts ((Record.mk aliases raw).value? "componentNames")) := by
  simp [ofRecord?, hasId, hasName]

/-- A component that is missing from the directory is shown by the given name of the same place,
counted among the names that can be read as its id is among the ids; without one it is shown by its
id. So a name at the position of the id is shown if as many names as ids can be read before it. -/
theorem names_stand_by_place {raw : Json} {id name : String}
    (hasId : (Record.mk aliases raw).text? "id" = some id)
    (hasName : (Record.mk aliases raw).text? "name" = some name) (components : Lookup) :
    ∃ t, ofRecord? raw components = some t ∧ t.id = id ∧ t.name = name ∧
      (t.componentIds ≠ [] → t.componentNames.length = t.componentIds.length) ∧
      ∀ ids names, (Record.mk aliases raw).value? "componentIds" = some (.arr ids) →
        (Record.mk aliases raw).value? "componentNames" = some (.arr names) →
        ∀ i component, textAt? ids i = some component → components.get? component = none →
          t.componentIds[placeOf ids i]? = some component ∧
          (∀ j given, textAt? names j = some given → placeOf names j = placeOf ids i →
            t.componentNames[placeOf ids i]? = some given) ∧
          ((∀ j given, textAt? names j = some given → placeOf names j ≠ placeOf ids i) →
            t.componentNames[placeOf ids i]? = some component) := by
  obtain ⟨t, read, sameId, sameName, componentIds, componentNames⟩ :=
    ofRecord?_of_named hasId hasName components
  refine ⟨t, read, sameId, sameName, fun filled => ?_, ?_⟩
  · rw [componentNames]
    exact length_namesFor components _ filled
  · intro ids names givenIds givenNames i component readId missing
    have stands : t.componentIds[placeOf ids i]? = some component := by
      rw [componentIds, givenIds]
      exact getElem?_filterMap_iff.2 ⟨i, readId, rfl⟩
    have shown : t.componentNames[placeOf ids i]? =
        some (((names.filterMap itemText?)[placeOf ids i]?).getD component) := by
      rw [componentNames, getElem?_namesFor components _ stands, givenNames]
      simp [Lookup.nameOf?, missing, texts]
    refine ⟨stands, fun j given readName same => ?_, fun nowhere => ?_⟩
    · rw [shown, getElem?_filterMap_iff.2 ⟨j, readName, same⟩]
      rfl
    · have absent : (names.filterMap itemText?)[placeOf ids i]? = none := by
        rw [Option.eq_none_iff_forall_ne_some]
        intro given found
        obtain ⟨j, readName, same⟩ := getElem?_filterMap_iff.1 found
        exact nowhere j given readName same
      rw [shown, absent]
      rfl

def tunnel (ids names : List Json) : Json :=
  .obj [("componentIds", .arr ids), ("componentNames", .arr names), ("id", .int 4),
    ("name", .str "Тоннель")]

theorem names_stand_by_place_portal :
    let components := Lookup.ofOptions [{ id := "13", name := "Пролёт" }]
    let raw := tunnel [.null, .int 12, .int 13] [.bool true, .str "Портал", .str "x"]
    ∃ t, ofRecord? raw components = some t ∧ t.componentIds[0]? = some "12" ∧
      t.componentNames[0]? = some "Портал" ∧
      t.componentNames.length = t.componentIds.length := by
  intro components raw
  have hasId : (Record.mk aliases raw).text? "id" = some "4" := by rfl
  have hasName : (Record.mk aliases raw).text? "name" = some "Тоннель" := by rfl
  obtain ⟨t, read, -, -, lengths, places⟩ := names_stand_by_place hasId hasName components
  obtain ⟨stands, shown, -⟩ := places _ _ rfl rfl 1 "12" (by rfl) (by decide +kernel)
  have filled : t.componentIds ≠ [] := by
    intro empty
    rw [empty] at stands
    cases stands
  exact ⟨t, read, stands, shown 1 "Портал" (by rfl) (by rfl), lengths filled⟩

-- An id that cannot be read is left out, and the names move away from the ids behind it.
theorem names_can_leave_position :
    ¬ ∀ (raw : Json) (components : Lookup) (t : ObjectType) (ids names : List Json),
      ofRecord? raw components = some t →
      (Record.mk aliases raw).value? "componentIds" = some (.arr ids) →
      (Record.mk aliases raw).value? "componentNames" = some (.arr names) →
      ids.length = names.length →
      ∀ (i : Nat) (component given : String), textAt? ids i = some component →
        components.get? component = none → textAt? names i = some given →
        t.componentNames[placeOf ids i]? = some given := by
  intro aligned
  have shown := aligned (tunnel [.null, .str "12"] [.str "Портал", .str "Свод"]) Dict.empty _ _ _
    rfl rfl rfl rfl 1 "12" "Свод" (by decide) (by decide) (by decide)
  revert shown
  decide +kernel

end RefData.ObjectType
