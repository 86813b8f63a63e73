import RefData.Proofs.Component.Numbering
set_option autoImplicit false

namespace RefData

namespace ComponentInput

@[simp] theorem apply_id (input : ComponentInput) (c : StoredComponent) :
    (input.apply c).id = c.id := by
  rw [apply]

@[simp] theorem apply_cls (input : ComponentInput) (c : StoredComponent) :
    (input.apply c).cls = c.cls := by
  rw [apply]

@[simp] theorem apply_name (input : ComponentInput) (c : StoredComponent) :
    (input.apply c).name = input.nameFor c.id := by
  rw [apply]

end ComponentInput

namespace ComponentStore

variable {s : ComponentStore} {id : Int} {c : StoredComponent}

theorem Keyed.get?_put_apply (keyed : s.Keyed) (stored : s.get? id = some c)
    (input : ComponentInput) (other : Int) :
    (s.put (input.apply c)).get? other =
      if other = id then some (input.apply c) else s.get? other := by
  rw [get?_put, input.apply_id, keyed id c stored]

-- The counter has passed the id already, so that writing it again does not raise it.
theorem Numbered.lastId_put_apply (numbered : s.Numbered) (keyed : s.Keyed)
    (stored : s.get? id = some c) (input : ComponentInput) :
    (s.put (input.apply c)).lastId = s.lastId := by
  have passed := numbered.passed id c stored
  rw [lastId_put, input.apply_id, keyed id c stored]
  omega

end ComponentStore

namespace History

open ComponentStore

variable {s : ComponentStore} {earlier : List ComponentStore}

/-- What the backend answers to a change or a deletion does not reach the store. A change leaves the
component its class, and all else as it was. -/
theorem change_takes_nothing_from_reply (run : History (s :: earlier)) :
    (∀ id c input, s.get? id = some c → ∃ shown after,
      (∀ b, (Repository.update id input).against b s = (some shown, after)) ∧
      (∃ changed, after.get? id = some changed ∧ changed.id = c.id ∧ changed.cls = c.cls) ∧
      (∀ other, other ≠ id → after.get? other = s.get? other) ∧
      after.register = s.register ∧ after.lastId = s.lastId) ∧
    ∀ id, ∃ after, ∀ b, ((Repository.delete id).against b s).2 = after := by
  have keyed := run.keyed s (by simp)
  constructor
  · intro id c input stored
    have found := keyed.get?_put_apply stored input
    refine ⟨s.loaded (input.apply c), s.put (input.apply c),
      Repository.update_of_stored stored input, ?_, ?_, (s.writes_put (input.apply c)).register,
      (run.numbered s (by simp)).lastId_put_apply keyed stored input⟩
    · exact ⟨input.apply c, by rw [found, if_pos rfl], input.apply_id c, input.apply_cls c⟩
    · intro other beside
      rw [found, if_neg beside]
  · intro id
    refine ⟨s.remove id, fun b => ?_⟩
    rw [Repository.delete_against]

theorem change_takes_nothing_from_refusal :
    let refused := Backend.always (.error (.transport "refused"))
    let saved := Backend.always (.ok (.obj [("cls", .int 5), ("id", .int 9), ("name", .str "Болт")]))
    let changing := Repository.update 1 { name := " Рельс Р65 ", cls := some 7 }
    changing.against refused .seeded = changing.against saved .seeded ∧
      (changing.against saved .seeded).2.get? 1 = some { id := 1, cls := 1027, name := "Рельс Р65" } ∧
      (changing.against saved .seeded).2.lastId = 3 := by
  obtain ⟨changes, _⟩ := change_takes_nothing_from_reply .seeded
  obtain ⟨shown, after, same, _, _, _, last⟩ :=
    changes 1 ⟨1, 1027, "Рельс", ["1"], ["101"], ["201"]⟩
      { name := " Рельс Р65 ", cls := some 7 } (by decide)
  refine ⟨(same _).trans (same _).symm, by decide, ?_⟩
  rw [same, last]
  rfl

end History

end RefData
