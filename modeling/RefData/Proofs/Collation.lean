import Mathlib.Data.List.Sort
import RefData.Collation
set_option autoImplicit false

namespace RefData.Collation

open Std

variable {α β : Type}

theorem compareLists_eq_compareLex (cmp : α → α → Ordering) :
    compareLists cmp = List.compareLex cmp := by
  funext as bs
  induction as generalizing bs with
  | nil => cases bs <;> rfl
  | cons a as ih =>
    cases bs with
    | nil => rfl
    | cons b bs => rw [compareLists, ih, List.compareLex_cons_cons]

theorem transCmp_on (cmp : β → β → Ordering) [TransCmp cmp] (key : α → β) :
    TransCmp fun a b => cmp (key a) (key b) where
  eq_swap := OrientedCmp.eq_swap
  isLE_trans := TransCmp.isLE_trans

instance : TransCmp compareWeight :=
  inferInstanceAs (TransCmp (compareLex (compareOn Prod.fst) (compareOn Prod.snd)))

instance (cmp : α → α → Ordering) [TransCmp cmp] : TransCmp (compareLists cmp) := by
  rw [compareLists_eq_compareLex]
  infer_instance

instance : TransCmp compareNames := by
  have byWeights := transCmp_on (compareLists compareWeight) weights
  have byCases := transCmp_on (compareLists (compare : Bool → Bool → Ordering)) cases
  exact inferInstanceAs (TransCmp (compareLex (compareLex
    (fun a b => compareLists compareWeight (weights a) (weights b))
    (fun a b => compareLists compare (cases a) (cases b))) compare))

instance : LawfulEqCmp compareWeight where
  eq_of_compare same :=
    have parts := Ordering.then_eq_eq.1 same
    Prod.ext (LawfulEqCmp.eq_of_compare parts.1) (LawfulEqCmp.eq_of_compare parts.2)

instance (cmp : α → α → Ordering) [LawfulEqCmp cmp] : LawfulEqCmp (compareLists cmp) := by
  rw [compareLists_eq_compareLex]
  infer_instance

instance : LawfulEqCmp compareNames where
  eq_of_compare same := LawfulEqCmp.eq_of_compare (Ordering.then_eq_eq.1 same).2

theorem nameLE_eq_isLE (a b : String) : nameLE a b = (compareNames a b).isLE := by
  unfold nameLE
  cases compareNames a b <;> rfl

theorem nameLE_refl (a : String) : nameLE a a := by
  have same : compareNames a a = .eq := ReflCmp.compare_self
  rw [nameLE_eq_isLE, same]
  rfl

theorem nameLE_trans {a b c : String} (first : nameLE a b) (second : nameLE b c) :
    nameLE a c := by
  rw [nameLE_eq_isLE] at *
  exact TransCmp.isLE_trans first second

theorem nameLE_total (a b : String) : nameLE a b || nameLE b a := by
  have swap : compareNames b a = (compareNames a b).swap := OrientedCmp.eq_swap
  rw [nameLE_eq_isLE, nameLE_eq_isLE, swap]
  cases compareNames a b <;> rfl

theorem nameLE_antisymm {a b : String} (first : nameLE a b) (second : nameLE b a) : a = b := by
  rw [nameLE_eq_isLE] at *
  have swap : compareNames b a = (compareNames a b).swap := OrientedCmp.eq_swap
  cases order : compareNames a b with
  | eq => exact LawfulEqCmp.eq_of_compare order
  | lt => simp [swap, order] at second
  | gt => simp [order] at first

theorem lowerChar_ne_nil (c : Char) : Text.lowerChar c ≠ [] := by
  unfold Text.lowerChar
  split <;> simp

theorem weights_append (a b : String) : weights (a ++ b) = weights a ++ weights b := by
  simp [weights]

theorem weights_ne_nil {s : String} (nonempty : s ≠ "") : weights s ≠ [] := by
  intro none
  have every : ∀ c ∈ s.toList, Text.lowerChar c = [] := by simpa [weights] using none
  have blank : s.toList = [] := by
    cases chars : s.toList with
    | nil => rfl
    | cons c rest => exact (lowerChar_ne_nil c (every c (by simp [chars]))).elim
  exact nonempty (String.toList_eq_nil_iff.1 blank)

theorem compareLists_append_cons (cmp : α → α → Ordering) [ReflCmp cmp] (as : List α) (b : α)
    (bs : List α) : compareLists cmp as (as ++ b :: bs) = .lt := by
  induction as with
  | nil => rfl
  | cons a as ih =>
    have same : cmp a a = .eq := ReflCmp.compare_self
    rw [List.cons_append, compareLists, same, ih]
    rfl

theorem compareNames_append (a : String) {more : String} (nonempty : more ≠ "") :
    compareNames a (a ++ more) = .lt := by
  obtain ⟨w, ws, split⟩ := List.exists_cons_of_ne_nil (weights_ne_nil nonempty)
  rw [compareNames, weights_append, split, compareLists_append_cons]
  rfl

theorem compareNames_of_weights_ne {a b : String} (differ : weights a ≠ weights b) :
    compareNames a b = compareLists compareWeight (weights a) (weights b) := by
  have decided : compareLists compareWeight (weights a) (weights b) ≠ .eq :=
    fun same => differ (LawfulEqCmp.eq_of_compare same)
  unfold compareNames
  cases order : compareLists compareWeight (weights a) (weights b) with
  | eq => exact (decided order).elim
  | lt => rfl
  | gt => rfl

section Sorting

variable {le : α → α → Bool} (trans : ∀ a b c, le a b → le b c → le a c)
  (total : ∀ a b, le a b || le b a)

include trans total

-- One more item in front goes behind what is smaller and before all it ties with.
theorem mergeSort_cons_eq (a : α) (items : List α) :
    (a :: items).mergeSort le =
      (items.mergeSort le).filter (fun b => !le a b) ++
        a :: (items.mergeSort le).filter (le a) := by
  obtain ⟨before, after, whole, rest, smaller⟩ := List.mergeSort_cons trans total a items
  have sorted := List.pairwise_mergeSort trans total (a :: items)
  rw [whole, List.pairwise_append, List.pairwise_cons] at sorted
  have larger : ∀ b ∈ after, le a b := sorted.2.1.1
  rw [whole, rest, List.filter_append, List.filter_append, List.filter_eq_self.2 smaller,
    List.filter_eq_self.2 larger]
  have noneAfter : after.filter (fun b => !le a b) = [] := by
    rw [List.filter_eq_nil_iff]
    intro b mem
    simp [larger b mem]
  have noneBefore : before.filter (le a) = [] := by
    rw [List.filter_eq_nil_iff]
    intro b mem
    simpa using smaller b mem
  simp [noneAfter, noneBefore]

theorem filter_mergeSort (keep : α → Bool) (items : List α) :
    (items.mergeSort le).filter keep = (items.filter keep).mergeSort le := by
  induction items with
  | nil => simp
  | cons a items ih =>
    by_cases kept : keep a
    · rw [mergeSort_cons_eq trans total, List.filter_append, List.filter_cons_of_pos kept,
        List.filter_cons_of_pos kept, mergeSort_cons_eq trans total, ← ih, List.filter_comm,
        List.filter_comm (p := le a)]
    · -- What is left out only parts the sorted rest at its own place.
      obtain ⟨before, after, whole, rest, _⟩ := List.mergeSort_cons trans total a items
      rw [whole, List.filter_append, List.filter_cons_of_neg kept, List.filter_cons_of_neg kept,
        ← ih, rest, List.filter_append]

end Sorting

theorem filter_sortByName (name : α → String) (keep : α → Bool) (items : List α) :
    (sortByName name items).filter keep = sortByName name (items.filter keep) := by
  apply filter_mergeSort
  · intro a b c first second
    exact nameLE_trans first second
  · intro a b
    exact nameLE_total (name a) (name b)

theorem sortByName_perm (name : α → String) (items : List α) :
    (sortByName name items).Perm items := List.mergeSort_perm _ _

theorem sortByName_sorted (name : α → String) (items : List α) :
    (sortByName name items).Pairwise fun a b => nameLE (name a) (name b) := by
  apply List.pairwise_mergeSort
  · intro a b c first second
    exact nameLE_trans first second
  · intro a b
    exact nameLE_total (name a) (name b)

theorem map_sortByName {name : α → String} {nameOf : β → String} {f : α → β}
    (same : ∀ a, nameOf (f a) = name a) (items : List α) :
    (sortByName name items).map f = sortByName nameOf (items.map f) := by
  apply List.map_mergeSort
  intro a _ b _
  rw [same, same]

theorem filter_name_sortByName (name : α → String) (items : List α) (n : String) :
    (sortByName name items).filter (name · = n) = items.filter (name · = n) := by
  rw [filter_sortByName]
  apply List.mergeSort_of_pairwise
  rw [List.pairwise_filter]
  apply List.pairwise_of_forall
  intro a b named namedToo
  rw [of_decide_eq_true named, of_decide_eq_true namedToo]
  exact nameLE_refl n

theorem map_name_sortByName (name : α → String) (items : List α) :
    (sortByName name items).map name = sortByName id (items.map name) := by
  apply map_sortByName
  intro a
  rfl

theorem sortByName_id_perm {names others : List String} (perm : others.Perm names) :
    sortByName id others = sortByName id names := by
  apply List.Perm.eq_of_pairwise _ (sortByName_sorted id others) (sortByName_sorted id names)
  · exact ((sortByName_perm id others).trans perm).trans (sortByName_perm id names).symm
  · intro a b _ _ first second
    exact nameLE_antisymm first second

def greatest? (names : List String) : Option String := (sortByName id names).getLast?

theorem greatest?_perm {names others : List String} (perm : others.Perm names) :
    greatest? others = greatest? names := by
  rw [greatest?, greatest?, sortByName_id_perm perm]

theorem greatest?_eq_none_iff (names : List String) : greatest? names = none ↔ names = [] := by
  rw [greatest?, List.getLast?_eq_none_iff, ← List.length_eq_zero_iff,
    (sortByName_perm id names).length_eq, List.length_eq_zero_iff]

theorem greatest?_eq_some {names : List String} {greatest : String}
    (found : greatest? names = some greatest) :
    greatest ∈ names ∧ ∀ name ∈ names, nameLE name greatest := by
  have perm := sortByName_perm id names
  have sorted := sortByName_sorted id names
  obtain ⟨before, whole⟩ := List.getLast?_eq_some_iff.1 found
  rw [whole] at perm sorted
  refine ⟨perm.mem_iff.1 (by simp), fun name mem => ?_⟩
  rcases List.mem_append.1 (perm.mem_iff.2 mem) with earlier | last
  · exact (List.pairwise_append.1 sorted).2.2 name earlier greatest (by simp)
  · rw [List.mem_singleton.1 last]
    exact nameLE_refl greatest

theorem greatest?_eq_getLast?_iff {names : List String} :
    greatest? names = names.getLast? ↔
      ∀ last, names.getLast? = some last → ∀ name ∈ names, compareNames name last ≠ .gt := by
  cases ends : names.getLast? with
  | none =>
    rw [List.getLast?_eq_none_iff] at ends
    simp [greatest?_eq_none_iff, ends]
  | some last =>
    have isName := List.mem_of_getLast? ends
    constructor
    · intro same other isLast name mem
      cases isLast
      exact bne_iff_ne.1 ((greatest?_eq_some same).2 name mem)
    · intro above
      cases found : greatest? names with
      | none =>
        rw [(greatest?_eq_none_iff names).1 found] at isName
        cases isName
      | some greatest =>
        obtain ⟨mem, greater⟩ := greatest?_eq_some found
        have below : nameLE greatest last := bne_iff_ne.2 (above last rfl greatest mem)
        rw [nameLE_antisymm below (greater last isName)]

/-- Names are in a linear order, and letter case matters only where the weights are the same. A list
sorted by it keeps what ties in place, and its names do not show in what order the items came. -/
theorem names_sort_in_linear_order :
    (∀ a b, compareNames a b = .eq ↔ a = b) ∧
    (∀ a b, compareNames b a = (compareNames a b).swap) ∧
    (∀ a b c, compareNames a b = .lt → compareNames b c = .lt → compareNames a c = .lt) ∧
    (∀ a more, more ≠ "" → compareNames a (a ++ more) = .lt) ∧
    (∀ a b a' b', weights a ≠ weights b → weights a' = weights a → weights b' = weights b →
      compareNames a' b' = compareNames a b) ∧
    ∀ (α : Type) (name : α → String) (items : List α),
      (sortByName name items).Perm items ∧
      (sortByName name items).Pairwise (fun x y => compareNames (name x) (name y) ≠ .gt) ∧
      (∀ n, (sortByName name items).filter (name · = n) = items.filter (name · = n)) ∧
      ∀ others, others.Perm items →
        (sortByName name others).map name = (sortByName name items).map name := by
  refine ⟨?_, ?_, ?_, ?_, ?_, ?_⟩
  · intro a b
    exact LawfulEqCmp.compare_eq_iff_eq
  · intro a b
    exact OrientedCmp.eq_swap
  · intro a b c first second
    exact TransCmp.lt_trans first second
  · intro a more nonempty
    exact compareNames_append a nonempty
  · intro a b a' b' differ keeps keeps'
    have differ' : weights a' ≠ weights b' := by rwa [keeps, keeps']
    rw [compareNames_of_weights_ne differ, compareNames_of_weights_ne differ', keeps, keeps']
  · intro α name items
    refine ⟨sortByName_perm name items, ?_, filter_name_sortByName name items, ?_⟩
    · exact (sortByName_sorted name items).imp fun le => bne_iff_ne.1 le
    · intro others perm
      rw [map_name_sortByName, map_name_sortByName, sortByName_id_perm (perm.map name)]

theorem yo_sorts_after_ye :
    compareNames "ель" "ёж" = .lt ∧ compareNames "ёж" "жук" = .lt ∧ compareNames "ель" "жук" = .lt ∧
      compareNames "Опора" ("Опора" ++ " ЛЭП") = .lt ∧
      compareNames "БЕТА" "альфа" = compareNames "бета" "Альфа" ∧
      ["б", "Б", "ёж", "б"].Perm ["Б", "б", "б", "ёж"] ∧
      (sortByName id ["б", "Б", "ёж", "б"]).map id = (sortByName id ["Б", "б", "б", "ёж"]).map id := by
  obtain ⟨_, _, trans, longer, recased, sorts⟩ := names_sort_in_linear_order
  have before : compareNames "ель" "ёж" = .lt := by decide +kernel
  have after : compareNames "ёж" "жук" = .lt := by decide +kernel
  have perm : ["б", "Б", "ёж", "б"].Perm ["Б", "б", "б", "ёж"] := by decide +kernel
  exact ⟨before, after, trans _ _ _ before after, longer _ _ (by decide +kernel),
    recased _ _ _ _ (by decide +kernel) (by decide +kernel) (by decide +kernel), perm,
    (sorts String id _).2.2.2 _ perm⟩

end RefData.Collation
