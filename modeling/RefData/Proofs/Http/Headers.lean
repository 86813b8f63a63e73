import RefData.Http.Headers
import RefData.Proofs.Text
set_option autoImplicit false

namespace RefData.Http.Headers

def Legible (cs : List Char) : Prop :=
  ∀ c ∈ cs, c = '\t' ∨ (0x20 ≤ c.toNat ∧ c.toNat ≤ 0x7E)

theorem isReadable_iff {value : String} : isReadable value = true ↔ Legible value.toList := by
  simp [isReadable, Legible]

theorem Legible.append {cs ds : List Char} (first : Legible cs) (second : Legible ds) :
    Legible (cs ++ ds) := by
  intro c mem
  exact (List.mem_append.1 mem).elim (first c) (second c)

theorem Legible.of_subset {cs ds : List Char} (whole : Legible ds) (within : cs ⊆ ds) :
    Legible cs := fun c mem => whole c (within mem)

theorem Legible.joinWith {sep : List Char} {parts : List (List Char)} (between : Legible sep)
    (each : ∀ part ∈ parts, Legible part) : Legible (Text.joinWith sep parts) := by
  intro c mem
  rcases Text.mem_joinWith mem with inSep | ⟨part, isPart, inPart⟩
  · exact between c inSep
  · exact each part isPart c inPart

variable (h : Headers) (name : String)

theorem values_append (other : Headers) :
    values (h ++ other) name = h.values name ++ values other name := by
  simp [values]

theorem values_filter (keeps : String → Bool) :
    values (h.filter fun field => keeps field.1) name = if keeps name then h.values name else [] := by
  simp only [values, List.filter_filter]
  split
  next kept =>
    congr 1
    apply List.filter_congr
    intro field _
    by_cases same : field.1 = name <;> simp [same, kept]
  next dropped =>
    simp only [List.map_eq_nil_iff, List.filter_eq_nil_iff]
    intro field _
    by_cases same : field.1 = name <;> simp [same, dropped]

theorem values_singleton (key value : String) :
    values [(key, value)] name = if name = key then [value] else [] := by
  by_cases same : name = key
  · simp [values, same]
  · have differs : key ≠ name := Ne.symm same
    simp [values, same, differs]

theorem values_put (key value : String) :
    (h.put key value).values name = if name = key then [value] else h.values name := by
  have others : (h.without key).values name = if name = key then [] else h.values name := by
    simpa [without] using values_filter h name (· != key)
  rw [put, values_append, others, values_singleton]
  by_cases same : name = key <;> simp [same]

theorem has_eq_true_iff : h.has name = true ↔ h.values name ≠ [] := by
  simp [has, values]

theorem values_putDefault (key value : String) :
    (h.putDefault key value).values name =
      if name = key ∧ h.values key = [] then [value] else h.values name := by
  unfold putDefault
  split
  next found =>
    have some := (has_eq_true_iff h key).1 found
    simp [some]
  next absent =>
    have none : h.values key = [] := by simpa [has_eq_true_iff] using absent
    rw [values_append, values_singleton]
    by_cases same : name = key <;> simp [same, none]

def Agree (other : Headers) : Prop := ∀ name, h.values name = other.values name

theorem Agree.putDefault {h other : Headers} (agree : h.Agree other) (key value : String) :
    (h.putDefault key value).Agree (other.putDefault key value) := by
  intro name
  rw [values_putDefault, values_putDefault, agree key, agree name]

end RefData.Http.Headers
