import RefData.Proofs.Text.Fold
set_option autoImplicit false

namespace RefData.Text

-- A set of code points as the bits of a number. A table is gone through once to make such a set,
-- and not again for every point that is looked up.

def unionBits (sets : List Nat) : Nat := sets.foldr (· ||| ·) 0

def pointBits (points : List Nat) : Nat := unionBits (points.map fun n => 1 <<< n)

def rangeBits (ranges : List (Nat × Nat)) : Nat :=
  unionBits (ranges.map fun range => (1 <<< (range.2 + 1 - range.1) - 1) <<< range.1)

theorem testBit_unionBits {sets : List Nat} {n : Nat} :
    (unionBits sets).testBit n = true ↔ ∃ set ∈ sets, set.testBit n = true := by
  induction sets with
  | nil => simp [unionBits]
  | cons set sets ih =>
    rw [List.exists_mem_cons_iff, ← ih, ← Bool.or_eq_true, ← Nat.testBit_or]
    rfl

theorem testBit_pointBits {points : List Nat} {n : Nat} :
    (pointBits points).testBit n = true ↔ n ∈ points := by
  simp [pointBits, testBit_unionBits, Nat.one_shiftLeft, Nat.testBit_two_pow]

theorem testBit_rangeBits {ranges : List (Nat × Nat)} {n : Nat} :
    (rangeBits ranges).testBit n = true ↔ Covers ranges n := by
  simp only [rangeBits, testBit_unionBits, List.mem_map, exists_exists_and_eq_and,
    Nat.one_shiftLeft, Nat.testBit_shiftLeft, Nat.testBit_two_pow_sub_one, Bool.and_eq_true,
    decide_eq_true_eq, Covers]
  refine exists_congr fun range => and_congr_right fun _ => ?_
  omega

def CaseRun.members (run : CaseRun) : List Nat :=
  (List.range' run.first (run.last + 1 - run.first)).filter run.covers

theorem CaseRun.mem_members {run : CaseRun} {n : Nat} : n ∈ run.members ↔ run.covers n = true := by
  rw [members, List.mem_filter, List.mem_range'_1]
  refine and_iff_right_of_imp fun covers => ?_
  simp only [CaseRun.covers, Bool.and_eq_true, decide_eq_true_eq] at covers
  omega

def capitalBits : Nat :=
  unionBits (pointBits [0x0130] :: lowerRuns.map fun run => pointBits run.members)

theorem not_capital_iff {n : Nat} : capitalBits.testBit n = false ↔
    n ≠ 0x0130 ∧ ∀ run ∈ lowerRuns, run.covers n = false := by
  rw [← Bool.not_eq_true, capitalBits, testBit_unionBits]
  simp [testBit_pointBits, CaseRun.mem_members]

theorem lowerChar_of_not_capital {c : Char} (small : capitalBits.testBit c.toNat = false) :
    lowerChar c = [c] := by
  obtain ⟨other, outside⟩ := not_capital_iff.1 small
  have plain : c ≠ dottedCapitalI := by
    rintro rfl
    exact other rfl
  have missed : lowerRuns.find? (·.covers c.toNat) = none :=
    List.find?_eq_none.2 fun run mem => by simp [outside run mem]
  rw [lowerChar, if_neg plain, partner, missed]

theorem partners_not_capital :
    (lowerRuns.all fun run => run.members.all fun n =>
      !capitalBits.testBit (Char.ofNat ((n : Int) + run.shift).toNat).toNat) = true := by
  decide +kernel

theorem not_capital_of_mem_lowerChar {x c : Char} (mem : c ∈ lowerChar x) :
    capitalBits.testBit c.toNat = false := by
  rw [lowerChar] at mem
  split at mem
  · rcases List.mem_pair.1 mem with rfl | rfl <;> exact not_capital_iff.2 (by decide +kernel)
  next plain =>
    rw [List.mem_singleton] at mem
    subst mem
    rw [partner]
    split
    next run found =>
      have covers : run.covers x.toNat = true := by simpa using List.find?_some found
      have partners := List.all_eq_true.1 (List.all_eq_true.1 partners_not_capital run
        (List.mem_of_find?_eq_some found)) x.toNat (CaseRun.mem_members.2 covers)
      simpa using partners
    next missed =>
      refine not_capital_iff.2 ⟨fun same => plain ?_, fun run mem => ?_⟩
      · rw [← Char.ofNat_toNat x, same]
        rfl
      · simpa using List.find?_eq_none.1 missed run mem

theorem inRanges_of_covers {ranges : List (Nat × Nat)} {n : Nat}
    (sorted : ranges.Pairwise (·.1 ≤ ·.1)) (covered : Covers ranges n) :
    inRanges ranges n = true := by
  induction ranges with
  | nil =>
    obtain ⟨range, mem, -⟩ := covered
    cases mem
  | cons range rest ih =>
    obtain ⟨first, last⟩ := range
    rw [List.pairwise_cons] at sorted
    rw [Covers, List.exists_mem_cons_iff] at covered
    rcases covered with here | later
    · simp [inRanges, here]
    · obtain ⟨other, mem, bounds⟩ := later
      have ordered : first ≤ other.1 := sorted.1 other mem
      have inside := ih sorted.2 ⟨other, mem, bounds⟩
      simp only [inRanges, inside, Bool.or_true, ite_eq_right_iff]
      omega

def markBits : Nat := rangeBits markRanges

theorem markRanges_sorted : markRanges.Pairwise (·.1 ≤ ·.1) := by
  have chained : markRanges.IsChain (·.1 ≤ ·.1) := by decide +kernel
  exact List.isChain_iff_pairwise.1 chained

theorem isMark_eq_testBit (c : Char) : isMark c = markBits.testBit c.toNat := by
  rw [Bool.eq_iff_iff, markBits, testBit_rangeBits]
  exact ⟨covers_of_inRanges, inRanges_of_covers markRanges_sorted⟩

theorem classes_are_marks :
    rangeBits (combiningClasses.map fun e => (e.1, e.2.1)) ||| markBits = markBits := by
  decide +kernel

theorem combiningClass_of_not_mark {c : Char} (unmarked : isMark c = false) :
    combiningClass c = 0 := by
  unfold combiningClass
  split
  next first last k found =>
    have bounds := List.find?_some found
    simp only [Bool.and_eq_true, decide_eq_true_eq] at bounds
    have classed :
        (rangeBits (combiningClasses.map fun e => (e.1, e.2.1))).testBit c.toNat = true :=
      testBit_rangeBits.2 ⟨(first, last),
        List.mem_map.2 ⟨_, List.mem_of_find?_eq_some found, rfl⟩, bounds⟩
    have marked : isMark c = true := by
      rw [isMark_eq_testBit, ← classes_are_marks, Nat.testBit_or, classed, Bool.true_or]
    rw [unmarked] at marked
    cases marked
  next => rfl

-- A folded text consists of characters that no step of folding has a hold on, and of the letter й.

def Settled (c : Char) : Prop :=
  c = 'й' ∨ decomposeChar c = [c] ∧ lowerChar c = [c] ∧ isMark c = false

instance : DecidablePred Settled := fun _ => inferInstanceAs (Decidable (_ ∨ _))

def IsAtom (c : Char) : Prop :=
  ¬ (hangulBase ≤ c.toNat ∧ c.toNat < hangulBase + syllableCount) ∧
    (pointBits (decompositions.map (·.1)) ||| capitalBits).testBit c.toNat = false

instance : DecidablePred IsAtom := fun _ => inferInstanceAs (Decidable (_ ∧ _))

theorem settled_of_isAtom {c : Char} (atom : IsAtom c) (unmarked : isMark c = false) :
    Settled c := by
  obtain ⟨noSyllable, free⟩ := atom
  rw [Nat.testBit_or, Bool.or_eq_false_iff] at free
  obtain ⟨whole, small⟩ := free
  have missed : decompositions.find? (·.1 == c.toNat) = none := by
    refine List.find?_eq_none.2 fun e mem same => ?_
    rw [beq_iff_eq] at same
    have listed := testBit_pointBits.2 (List.mem_map.2 ⟨e, mem, same⟩)
    rw [whole] at listed
    cases listed
  refine .inr ⟨?_, lowerChar_of_not_capital small, unmarked⟩
  simp [decomposeChar, missed, noSyllable]

def jamo : List Nat :=
  List.range' leadBase leadCount ++ List.range' vowelBase vowelCount ++
    List.range' tailBase tailCount

-- One look at the tables for all parts, as each look has to build the sets anew.
theorem parts_are_atoms :
    (decompositions.all fun e => capitalBits.testBit e.1 || e.2.all fun part =>
      markBits.testBit (Char.ofNat part).toNat || decide (IsAtom (Char.ofNat part))) = true ∧
    (jamo.all fun part =>
      !markBits.testBit (Char.ofNat part).toNat && decide (IsAtom (Char.ofNat part))) = true := by
  decide +kernel

theorem isAtom_of_decomposition {e : Nat × List Nat} {part : Nat} (listed : e ∈ decompositions)
    (small : capitalBits.testBit e.1 = false) (mem : part ∈ e.2)
    (unmarked : isMark (Char.ofNat part) = false) : IsAtom (Char.ofNat part) := by
  have parts := List.all_eq_true.1 parts_are_atoms.1 e listed
  rw [small, Bool.false_or] at parts
  have known := List.all_eq_true.1 parts part mem
  rw [← isMark_eq_testBit, unmarked, Bool.false_or] at known
  exact of_decide_eq_true known

theorem isAtom_of_jamo {part : Nat} (mem : part ∈ jamo) :
    IsAtom (Char.ofNat part) ∧ isMark (Char.ofNat part) = false := by
  have known := List.all_eq_true.1 parts_are_atoms.2 part mem
  rw [← isMark_eq_testBit, Bool.and_eq_true, Bool.not_eq_true'] at known
  exact ⟨of_decide_eq_true known.2, known.1⟩

theorem mem_jamo_of_mem_decomposeSyllable {index part : Nat} (bound : index < syllableCount)
    (mem : part ∈ decomposeSyllable index) : part ∈ jamo := by
  simp only [jamo, List.mem_append, List.mem_range'_1]
  simp only [syllableCount, leadCount, vowelCount, tailCount] at bound ⊢
  simp only [decomposeSyllable, vowelCount, tailCount] at mem
  by_cases tail : index % 28 = 0
  all_goals
    simp only [tail, if_true, if_false, List.mem_cons, List.not_mem_nil, or_false] at mem
    omega

theorem settled_of_mem_decomposeChar {c d : Char} (small : capitalBits.testBit c.toNat = false)
    (mem : d ∈ decomposeChar c) (unmarked : isMark d = false) : Settled d := by
  have alone (whole : decomposeChar c = [c]) : Settled d := by
    rw [whole, List.mem_singleton] at mem
    subst mem
    exact .inr ⟨whole, lowerChar_of_not_capital small, unmarked⟩
  by_cases low : c.toNat < 0xC0
  · exact alone (by simp [decomposeChar, low])
  by_cases syllable : hangulBase ≤ c.toNat ∧ c.toNat < hangulBase + syllableCount
  · simp only [decomposeChar, low, syllable, decide_true, Bool.and_self, if_true, if_false,
      List.mem_map] at mem
    obtain ⟨part, partMem, rfl⟩ := mem
    have inJamo := mem_jamo_of_mem_decomposeSyllable (by omega) partMem
    exact settled_of_isAtom (isAtom_of_jamo inJamo).1 unmarked
  cases found : decompositions.find? (·.1 == c.toNat) with
  | none => exact alone (by simp [decomposeChar, low, syllable, found])
  | some e =>
    have decomposed : decomposeChar c = e.2.map Char.ofNat := by
      simp [decomposeChar, low, syllable, found]
    rw [decomposed, List.mem_map] at mem
    obtain ⟨part, partMem, rfl⟩ := mem
    have same : e.1 = c.toNat := by simpa using List.find?_some found
    have atom := isAtom_of_decomposition (List.mem_of_find?_eq_some found) (same ▸ small) partMem
      unmarked
    exact settled_of_isAtom atom unmarked

theorem settled_of_mem_foldChar {c d : Char} (small : capitalBits.testBit c.toNat = false)
    (mem : d ∈ foldChar c) : Settled d := by
  unfold foldChar at mem
  split at mem
  · rw [List.mem_singleton] at mem
    subst mem
    decide +kernel
  · split at mem
    · exact .inl (List.mem_singleton.1 mem)
    · rw [List.mem_filter] at mem
      exact settled_of_mem_decomposeChar small mem.1 (by simpa using mem.2)

theorem settled_of_mem_foldChars {cs : List Char} {c : Char} (mem : c ∈ foldChars cs) :
    Settled c := by
  rw [foldChars, List.mem_flatMap] at mem
  obtain ⟨x, lowered, folded⟩ := mem
  obtain ⟨y, -, lowered⟩ := List.mem_flatMap.1 lowered
  exact settled_of_mem_foldChar (not_capital_of_mem_lowerChar lowered) folded

end RefData.Text
