set_option autoImplicit false

namespace RefData

open Std

namespace Assoc

variable {κ α : Type} [Ord κ]

def insert (k : κ) (v : α) : List (κ × α) → List (κ × α)
  | [] => [(k, v)]
  | (k', v') :: rest =>
    match compare k k' with
    | .lt => (k, v) :: (k', v') :: rest
    | .eq => (k, v) :: rest
    | .gt => (k', v') :: insert k v rest

def get? (k : κ) : List (κ × α) → Option α
  | [] => none
  | (k', v) :: rest => if compare k k' = .eq then some v else get? k rest

def erase (k : κ) (entries : List (κ × α)) : List (κ × α) :=
  entries.filter fun e => compare k e.1 != .eq

def Sorted (entries : List (κ × α)) : Prop :=
  entries.Pairwise fun a b => compare a.1 b.1 = .lt

theorem mem_insert_key {k : κ} {v : α} {entries : List (κ × α)} {e : κ × α}
    (mem : e ∈ insert k v entries) : e = (k, v) ∨ e ∈ entries := by
  induction entries with
  | nil => simpa [insert] using mem
  | cons head rest ih =>
    obtain ⟨k', v'⟩ := head
    unfold insert at mem
    split at mem
    · simpa using mem
    · rcases List.mem_cons.1 mem with here | there
      · exact .inl here
      · exact .inr (List.mem_cons_of_mem _ there)
    · rcases List.mem_cons.1 mem with here | there
      · exact .inr (here ▸ List.mem_cons_self)
      · exact (ih there).imp id (List.mem_cons_of_mem _)

theorem sorted_erase {k : κ} {entries : List (κ × α)} (sorted : Sorted entries) :
    Sorted (erase k entries) := List.Pairwise.filter _ sorted

variable [LawfulEqOrd κ]

theorem get?_insert (k : κ) (v : α) (j : κ) (entries : List (κ × α)) :
    get? j (insert k v entries) = if compare j k = .eq then some v else get? j entries := by
  induction entries with
  | nil => simp [insert, get?]
  | cons head rest ih =>
    obtain ⟨k', v'⟩ := head
    unfold insert
    split
    · simp [get?]
    · rename_i same
      have : k = k' := LawfulEqCmp.eq_of_compare same
      subst this
      by_cases h : compare j k = .eq <;> simp [get?, h]
    · rename_i greater
      simp only [get?, ih]
      by_cases h : compare j k' = .eq
      · have : j = k' := LawfulEqCmp.eq_of_compare h
        subst this
        have : compare j k ≠ .eq := by
          intro same
          have := LawfulEqCmp.eq_of_compare same
          subst this
          simp [ReflCmp.compare_self] at greater
        simp [this]
      · simp [h]

variable [TransOrd κ]

theorem sorted_insert {k : κ} {v : α} {entries : List (κ × α)} (sorted : Sorted entries) :
    Sorted (insert k v entries) := by
  induction entries with
  | nil => simp [insert, Sorted]
  | cons head rest ih =>
    obtain ⟨k', v'⟩ := head
    have ⟨least, sortedRest⟩ := List.pairwise_cons.1 sorted
    unfold insert
    split
    · rename_i less
      refine List.pairwise_cons.2 ⟨fun e mem => ?_, sorted⟩
      rcases List.mem_cons.1 mem with here | there
      · rw [here]; exact less
      · exact TransCmp.lt_trans less (least e there)
    · rename_i same
      have : k = k' := LawfulEqCmp.eq_of_compare same
      exact List.pairwise_cons.2 ⟨this ▸ least, sortedRest⟩
    · rename_i greater
      refine List.pairwise_cons.2 ⟨fun e mem => ?_, ih sortedRest⟩
      rcases mem_insert_key mem with here | there
      · rw [here]; exact OrientedCmp.gt_iff_lt.1 greater
      · exact least e there

theorem get?_erase (k j : κ) (entries : List (κ × α)) :
    get? j (erase k entries) = if compare j k = .eq then none else get? j entries := by
  induction entries with
  | nil => simp [erase, get?]
  | cons head rest ih =>
    obtain ⟨k', v'⟩ := head
    unfold erase at ih ⊢
    rw [List.filter_cons]
    by_cases same : compare k k' = .eq
    · have : k = k' := LawfulEqCmp.eq_of_compare same
      subst this
      by_cases h : compare j k = .eq <;> simp [get?, h, ih]
    · by_cases h : compare j k' = .eq
      · have : j = k' := LawfulEqCmp.eq_of_compare h
        subst this
        have other : compare j k ≠ .eq := fun back =>
          same (OrientedCmp.eq_comm.1 back)
        simp [get?, same, other]
      · simp [get?, same, h, ih]

end Assoc

/-- A dictionary whose entries stand in key order, so that two with the same content are equal. -/
structure Dict (κ α : Type) [Ord κ] where
  entries : List (κ × α)
  sorted : Assoc.Sorted entries

namespace Dict

variable {κ α : Type} [Ord κ]

def empty : Dict κ α := ⟨[], List.Pairwise.nil⟩

instance : Inhabited (Dict κ α) := ⟨empty⟩

def get? (d : Dict κ α) (k : κ) : Option α := Assoc.get? k d.entries

def contains (d : Dict κ α) (k : κ) : Bool := (d.get? k).isSome

def keys (d : Dict κ α) : List κ := d.entries.map Prod.fst

def values (d : Dict κ α) : List α := d.entries.map Prod.snd

def size (d : Dict κ α) : Nat := d.entries.length

variable [TransOrd κ] [LawfulEqOrd κ]

def insert (d : Dict κ α) (k : κ) (v : α) : Dict κ α :=
  ⟨Assoc.insert k v d.entries, Assoc.sorted_insert d.sorted⟩

def erase (d : Dict κ α) (k : κ) : Dict κ α :=
  ⟨Assoc.erase k d.entries, Assoc.sorted_erase d.sorted⟩

def ofList (entries : List (κ × α)) : Dict κ α :=
  entries.foldl (fun d e => d.insert e.1 e.2) empty

@[simp] theorem get?_insert (d : Dict κ α) (k : κ) (v : α) (j : κ) :
    (d.insert k v).get? j = if compare j k = .eq then some v else d.get? j :=
  Assoc.get?_insert k v j d.entries

@[simp] theorem get?_erase (d : Dict κ α) (k j : κ) :
    (d.erase k).get? j = if compare j k = .eq then none else d.get? j :=
  Assoc.get?_erase k j d.entries

end Dict

end RefData
