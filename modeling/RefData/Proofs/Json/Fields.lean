import RefData.Json.Decode
import RefData.Proofs.Dict
set_option autoImplicit false

namespace RefData.Json

theorem field?_ofFields_eq_get? (fields : List (String × Json)) (key : String) :
    (ofFields fields).field? key = (Dict.ofList fields).get? key := by
  have same (d : Dict String Json) :
      fields.foldl (fun acc f => Assoc.insert f.1 f.2 acc) d.entries =
        (fields.foldl (fun d f => d.insert f.1 f.2) d).entries :=
    List.foldl_hom Dict.entries fun _ _ => rfl
  exact congrArg (Assoc.get? key) (same Dict.empty)

theorem field?_ofFields {fields : List (String × Json)} {key : String} {value : Json}
    (distinct : (fields.map Prod.fst).Nodup) (mem : (key, value) ∈ fields) :
    (ofFields fields).field? key = some value := by
  rw [field?_ofFields_eq_get?]
  exact (Dict.get?_ofList_of_nodup distinct key value).2 mem

def present (slots : List (String × Option Json)) : List (String × Json) :=
  slots.filterMap fun slot => slot.2.map fun value => (slot.1, value)

theorem keys_present_sublist (slots : List (String × Option Json)) :
    ((present slots).map Prod.fst).Sublist (slots.map Prod.fst) := by
  induction slots with
  | nil => exact .slnil
  | cons slot rest ih =>
    obtain ⟨key, value⟩ := slot
    cases value with
    | none => exact ih.cons key
    | some value => exact ih.cons_cons key

theorem mem_present {slots : List (String × Option Json)} {key : String} {value : Json} :
    (key, value) ∈ present slots ↔ (key, some value) ∈ slots := by
  simp only [present, List.mem_filterMap, Option.map_eq_some_iff, Prod.mk.injEq, Prod.exists]
  grind

theorem slots?_ofFields (slots : List (String × Option Json))
    (distinct : (slots.map Prod.fst).Nodup) (least : Nat) :
    (ofFields (present slots)).slots? (slots.map Prod.fst) least = some (slots.map Prod.snd) := by
  have written : ((present slots).map Prod.fst).Nodup :=
    distinct.sublist (keys_present_sublist slots)
  change some ((slots.map Prod.fst).map fun name => (ofFields (present slots)).field? name) = _
  rw [List.map_map, Option.some_inj]
  apply List.map_congr_left
  rintro ⟨key, filled⟩ mem
  ext value
  rw [Function.comp_apply, field?_ofFields_eq_get?, Dict.get?_ofList_of_nodup written, mem_present]
  constructor
  · intro given
    exact congrArg Prod.snd (List.inj_on_of_nodup_map distinct mem given rfl)
  · rintro rfl
    exact mem

theorem mapM_map_eq_some {α β : Type} {write : α → β} {read : β → Option α} {items : List α}
    (reads : ∀ item ∈ items, read (write item) = some item) :
    (items.map write).mapM read = some items := by
  induction items with
  | nil => rfl
  | cons item rest ih =>
    obtain ⟨first, later⟩ := List.forall_mem_cons.1 reads
    rw [List.map_cons, List.mapM_cons, first, ih later]
    rfl

theorem of_mem_of_mapM {α β : Type} {read : β → Option α} {raw : List β} {items : List α}
    (reads : raw.mapM read = some items) {item : α} (mem : item ∈ items) :
    ∃ v ∈ raw, read v = some item := by
  induction raw generalizing items with
  | nil =>
    cases reads
    cases mem
  | cons v rest ih =>
    rw [List.mapM_cons] at reads
    obtain ⟨first, here, later⟩ := Option.bind_eq_some_iff.1 reads
    obtain ⟨others, there, same⟩ := Option.bind_eq_some_iff.1 later
    cases same
    rcases List.mem_cons.1 mem with rfl | mem
    · exact ⟨v, List.mem_cons_self, here⟩
    · obtain ⟨w, memW, readW⟩ := ih there mem
      exact ⟨w, List.mem_cons_of_mem v memW, readW⟩

@[simp] theorem nat64?_ofNat (n : Nat) : (ofNat n).nat64? = some n := by
  simp [ofNat, nat64?]

end RefData.Json
