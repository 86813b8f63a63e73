import Mathlib.Data.Finset.Card
import Mathlib.Data.List.Sort
import RefData.Dict
set_option autoImplicit false

namespace RefData

open Std

variable {κ α β : Type} [Ord κ] [LawfulEqOrd κ]

namespace Assoc

theorem Sorted.mem_iff_get? {entries : List (κ × α)} (sorted : Sorted entries) (k : κ) (v : α) :
    (k, v) ∈ entries ↔ get? k entries = some v := by
  induction entries with
  | nil => simp [get?]
  | cons head rest ih =>
    obtain ⟨k', v'⟩ := head
    obtain ⟨least, sortedRest⟩ := List.pairwise_cons.1 sorted
    by_cases same : k = k'
    · subst same
      have absent : (k, v) ∉ rest := by
        intro mem
        have less := least _ mem
        simp [ReflCmp.compare_self] at less
      simp [get?, absent, eq_comm]
    · simp [get?, same, ih sortedRest]

variable [TransOrd κ]

theorem Sorted.eq_of_mem_iff {entries others : List (κ × α)} (sorted : Sorted entries)
    (sortedOthers : Sorted others) (same : ∀ e, e ∈ entries ↔ e ∈ others) : entries = others := by
  have irrefl : Std.Irrefl fun a b : κ × α => compare a.1 b.1 = .lt :=
    ⟨fun a less => by simp [ReflCmp.compare_self] at less⟩
  have antisymm : Std.Antisymm fun a b : κ × α => compare a.1 b.1 = .lt :=
    ⟨fun a b less greater => (OrientedCmp.not_lt_of_lt less greater).elim⟩
  exact List.Pairwise.eq_of_mem_iff sorted sortedOthers same

end Assoc

namespace Dict

theorem mem_entries (d : Dict κ α) (k : κ) (v : α) : (k, v) ∈ d.entries ↔ d.get? k = some v :=
  d.sorted.mem_iff_get? k v

omit [LawfulEqOrd κ] in
@[simp] theorem get?_empty (k : κ) : (empty : Dict κ α).get? k = none := rfl

theorem nodup_keys (d : Dict κ α) : d.keys.Nodup := by
  rw [keys, List.nodup_iff_pairwise_ne, List.pairwise_map]
  refine d.sorted.imp fun {a b} less same => ?_
  simp [same, ReflCmp.compare_self] at less

theorem mem_keys (d : Dict κ α) (k : κ) : k ∈ d.keys ↔ (d.get? k).isSome := by
  simp [keys, mem_entries, Option.isSome_iff_exists]

theorem mem_values (d : Dict κ α) (v : α) : v ∈ d.values ↔ ∃ k, d.get? k = some v := by
  simp [values, mem_entries]

theorem size_eq_card [DecidableEq κ] (d : Dict κ α) : d.size = d.keys.toFinset.card := by
  rw [List.toFinset_card_of_nodup d.nodup_keys]
  simp [size, keys]

variable [TransOrd κ]

theorem ext_get? {d other : Dict κ α} (same : ∀ k, d.get? k = other.get? k) : d = other := by
  have entries : d.entries = other.entries := by
    apply d.sorted.eq_of_mem_iff other.sorted
    rintro ⟨k, v⟩
    rw [mem_entries, mem_entries, same]
  cases d
  cases other
  simp_all

theorem erase_insert (d : Dict κ α) (k : κ) (v : α) : (d.insert k v).erase k = d.erase k := by
  apply ext_get?
  intro j
  by_cases same : j = k <;> simp [same]

variable [DecidableEq κ]

omit [TransOrd κ] in
theorem entries_erase (d : Dict κ α) (k : κ) :
    (d.erase k).entries = d.entries.filter (·.1 ≠ k) := by
  change d.entries.filter _ = _
  apply List.filter_congr
  intro e _
  by_cases same : e.1 = k
  · simp [same, ReflCmp.compare_self]
  · have other : compare k e.1 ≠ .eq := by
      rw [ne_eq, LawfulEqOrd.compare_eq_iff_eq, eq_comm]
      exact same
    simp [same, bne_iff_ne.2 other]

theorem entries_filter_key (d : Dict κ α) (k : κ) :
    d.entries.filter (·.1 = k) = ((d.get? k).map fun v => (k, v)).toList := by
  have sortedHit : Assoc.Sorted ((d.get? k).map fun v => (k, v)).toList := by
    cases d.get? k <;> simp [Assoc.Sorted]
  apply Assoc.Sorted.eq_of_mem_iff (List.Pairwise.filter _ d.sorted) sortedHit
  rintro ⟨j, v⟩
  by_cases same : j = k
  · subst same
    simp [mem_entries]
  · simp [same, Ne.symm same]

-- The fold runs from the first entry to the last, so each entry hides those before it.
theorem get?_foldl_insert (entries : List (κ × α)) (d : Dict κ α) (k : κ) :
    (entries.foldl (fun d e => d.insert e.1 e.2) d).get? k =
      ((entries.findRev? (·.1 = k)).map Prod.snd).or (d.get? k) := by
  induction entries generalizing d with
  | nil => simp [List.findRev?]
  | cons e rest ih =>
    have hit : compare k e.1 = .eq ↔ e.1 = k := by
      rw [LawfulEqOrd.compare_eq_iff_eq, eq_comm]
    rw [List.foldl_cons, ih, get?_insert, List.findRev?]
    cases rest.findRev? (·.1 = k) with
    | some later => simp
    | none => by_cases here : e.1 = k <;> simp [hit, here]

theorem get?_ofList (entries : List (κ × α)) (k : κ) :
    (ofList entries).get? k = (entries.findRev? (·.1 = k)).map Prod.snd := by
  simp [ofList, get?_foldl_insert]

theorem mem_keys_ofList (entries : List (κ × α)) (k : κ) :
    k ∈ (ofList entries).keys ↔ k ∈ entries.map Prod.fst := by
  rw [mem_keys, get?_ofList, Option.isSome_map, List.findRev?_eq_find?_reverse, List.find?_isSome]
  simp

theorem get?_ofList_read {ρ : Type} {read : ρ → Option (κ × α)} {k : κ} {holds : ρ → Bool}
    {value : ρ → Option α} (reads : ∀ r v, read r = some (k, v) ↔ holds r ∧ value r = some v)
    (valued : ∀ r, holds r → (value r).isSome) (records : List ρ) :
    (ofList (records.filterMap read)).get? k = (records.findRev? holds).bind value := by
  have same : (fun r => (read r).any (·.1 = k)) = holds := by
    funext r
    rw [Bool.eq_iff_iff, Option.any_eq_true]
    constructor
    · rintro ⟨e, here, key⟩
      have under : read r = some (k, e.2) := by simpa [← of_decide_eq_true key] using here
      exact ((reads r e.2).1 under).1
    · intro held
      obtain ⟨v, value⟩ := Option.isSome_iff_exists.1 (valued r held)
      exact ⟨(k, v), (reads r v).2 ⟨held, value⟩, by simp⟩
  rw [get?_ofList, List.findRev?_eq_find?_reverse, List.findRev?_eq_find?_reverse,
    ← List.filterMap_reverse, List.find?_filterMap, same]
  cases found : records.reverse.find? holds with
  | none => rfl
  | some r =>
    have held := List.find?_some found
    obtain ⟨v, value⟩ := Option.isSome_iff_exists.1 (valued r held)
    simp [value, (reads r v).2 ⟨held, value⟩]

theorem get?_ofList_of_nodup {entries : List (κ × α)} (distinct : (entries.map Prod.fst).Nodup)
    (k : κ) (v : α) : (ofList entries).get? k = some v ↔ (k, v) ∈ entries := by
  rw [get?_ofList, List.findRev?_eq_find?_reverse, Option.map_eq_some_iff]
  have hit {e : κ × α} (found : entries.reverse.find? (·.1 = k) = some e) :
      e ∈ entries ∧ e.1 = k :=
    ⟨by simpa using List.mem_of_find?_eq_some found, by simpa using List.find?_some found⟩
  constructor
  · rintro ⟨e, found, rfl⟩
    obtain ⟨mem, rfl⟩ := hit found
    exact mem
  · intro mem
    have some : (entries.reverse.find? (·.1 = k)).isSome := by
      rw [List.find?_isSome]
      exact ⟨(k, v), by simpa using mem, by simp⟩
    obtain ⟨e, found⟩ := Option.isSome_iff_exists.1 some
    obtain ⟨memFound, key⟩ := hit found
    have same : e = (k, v) := List.inj_on_of_nodup_map distinct memFound mem key
    exact ⟨e, found, by rw [same]⟩

theorem ofList_entries (d : Dict κ α) : ofList d.entries = d := by
  apply ext_get?
  intro k
  ext v
  rw [get?_ofList_of_nodup d.nodup_keys, mem_entries]

theorem get?_ofList_filterMap (d : Dict κ α) {met : List (κ × α)} (perm : met.Perm d.entries)
    (f : κ → α → Option β) (k : κ) :
    (ofList (met.filterMap fun e => (f e.1 e.2).map fun v => (e.1, v))).get? k =
      (d.get? k).bind (f k) := by
  have distinctMet : met.Pairwise (fun a b => a.1 ≠ b.1) := by
    rw [← List.pairwise_map, ← List.nodup_iff_pairwise_ne]
    exact (perm.map Prod.fst).nodup_iff.2 d.nodup_keys
  have distinct : ((met.filterMap fun e => (f e.1 e.2).map fun v => (e.1, v)).map
      Prod.fst).Nodup := by
    rw [List.nodup_iff_pairwise_ne, List.pairwise_map]
    refine List.Pairwise.filterMap _ (fun a b other x hx y hy => ?_) distinctMet
    obtain ⟨_, _, rfl⟩ := Option.map_eq_some_iff.1 hx
    obtain ⟨_, _, rfl⟩ := Option.map_eq_some_iff.1 hy
    exact other
  ext v
  rw [get?_ofList_of_nodup distinct]
  simp [perm.mem_iff, mem_entries, Option.bind_eq_some_iff]

end Dict

end RefData
