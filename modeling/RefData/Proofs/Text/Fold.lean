import RefData.Text.Fold
import RefData.Proofs.Text
set_option autoImplicit false

namespace RefData.Text

-- A table is compared with ranges of characters as a whole, so that none has to be looked up in it.

def Covers (ranges : List (Nat × Nat)) (n : Nat) : Prop :=
  ∃ range ∈ ranges, range.1 ≤ n ∧ n ≤ range.2

instance (ranges : List (Nat × Nat)) : DecidablePred (Covers ranges) :=
  fun _ => inferInstanceAs (Decidable (∃ _ ∈ _, _))

def apart (ranges others : List (Nat × Nat)) : Bool :=
  ranges.all fun range => others.all fun other => range.2.blt other.1 || other.2.blt range.1

theorem covers_of_inRanges {ranges : List (Nat × Nat)} {n : Nat}
    (inside : inRanges ranges n = true) : Covers ranges n := by
  induction ranges with
  | nil => cases inside
  | cons range rest ih =>
    obtain ⟨first, last⟩ := range
    rw [inRanges] at inside
    split at inside
    · cases inside
    · rcases Bool.or_eq_true_iff.1 inside with here | later
      · exact ⟨_, List.mem_cons_self, by omega, by simpa using here⟩
      · obtain ⟨range, mem, bounds⟩ := ih later
        exact ⟨range, List.mem_cons_of_mem _ mem, bounds⟩

theorem not_covers_of_apart {ranges others : List (Nat × Nat)} {n : Nat}
    (disjoint : apart ranges others = true) (inside : Covers ranges n) : ¬ Covers others n := by
  rintro ⟨other, mem, bounds⟩
  obtain ⟨range, memRange, boundsRange⟩ := inside
  simp only [apart, List.all_eq_true, Bool.or_eq_true, Nat.blt_eq] at disjoint
  have := disjoint range memRange other mem
  omega

def spaceRanges : List (Nat × Nat) := [
  (0x0000, 0x0020), (0x0080, 0x00A0), (0x1680, 0x1680), (0x2000, 0x205F), (0x3000, 0x3000)]

def plainRanges : List (Nat × Nat) := [
  (0x0000, 0x00BF), (0x0410, 0x044F), (0x1680, 0x1680), (0x2000, 0x205F), (0x3000, 0x3000)]

def solidRanges : List (Nat × Nat) := [
  (0x0000, 0x00BF), (0x0410, 0x0418), (0x041A, 0x0438), (0x043A, 0x044F), (0x1680, 0x1680),
  (0x2002, 0x205F), (0x3000, 0x3000)]

theorem covers_of_isBlank {c : Char} (blank : isBlank c = true) : Covers spaceRanges c.toNat := by
  have covered : Covers blankRanges c.toNat := covers_of_inRanges blank
  simp only [Covers, blankRanges, spaceRanges, List.exists_mem_cons_iff, List.not_mem_nil,
    false_and, exists_false, or_false] at covered ⊢
  omega

theorem plain_of_space {n : Nat} (space : Covers spaceRanges n) : Covers plainRanges n := by
  simp only [Covers, plainRanges, spaceRanges, List.exists_mem_cons_iff, List.not_mem_nil,
    false_and, exists_false, or_false] at space ⊢
  omega

theorem classes_apart : apart plainRanges (combiningClasses.map fun e => (e.1, e.2.1)) = true := by
  decide +kernel

theorem seconds_apart : apart plainRanges (composites.map fun e => (e.2.1, e.2.1)) = true := by
  decide +kernel

theorem firsts_apart : apart spaceRanges (composites.map fun e => (e.1, e.1)) = true := by
  decide +kernel

theorem marks_apart : apart plainRanges markRanges = true := by
  decide +kernel

theorem capitals_apart :
    apart spaceRanges (lowerRuns.map fun run => (run.first, run.last)) = true := by
  decide +kernel

theorem decompositions_apart :
    apart solidRanges (decompositions.map fun e => (e.1, e.1)) = true := by
  decide +kernel

theorem combiningClass_of_plain {c : Char} (plain : Covers plainRanges c.toNat) :
    combiningClass c = 0 := by
  unfold combiningClass
  split
  next first last k found =>
    have bounds := List.find?_some found
    simp only [Bool.and_eq_true, decide_eq_true_eq] at bounds
    refine absurd ⟨(first, last), ?_, bounds⟩ (not_covers_of_apart classes_apart plain)
    exact List.mem_map.2 ⟨_, List.mem_of_find?_eq_some found, rfl⟩
  next => rfl

theorem composeSyllable?_of_plain {n : Nat} (plain : Covers plainRanges n) (a : Nat) :
    composeSyllable? a n = none := by
  have vowels : vowelBase = 0x1161 ∧ vowelCount = 21 := ⟨rfl, rfl⟩
  have tails : tailBase = 0x11A7 ∧ tailCount = 28 := ⟨rfl, rfl⟩
  simp only [Covers, plainRanges, List.exists_mem_cons_iff, List.not_mem_nil,
    false_and, exists_false, or_false] at plain
  rw [composeSyllable?, if_neg, if_neg]
  all_goals
    simp only [Bool.and_eq_true, decide_eq_true_eq, not_and]
    omega

theorem composeSyllable?_of_space {n : Nat} (space : Covers spaceRanges n) (b : Nat) :
    composeSyllable? n b = none := by
  have leads : leadBase = 0x1100 ∧ leadCount = 19 := ⟨rfl, rfl⟩
  have syllables : hangulBase = 0xAC00 := rfl
  simp only [Covers, spaceRanges, List.exists_mem_cons_iff, List.not_mem_nil,
    false_and, exists_false, or_false] at space
  rw [composeSyllable?, if_neg, if_neg]
  all_goals
    simp only [Bool.and_eq_true, decide_eq_true_eq, not_and]
    omega

theorem composePair?_of_plain {c : Char} (plain : Covers plainRanges c.toNat) (a : Char) :
    composePair? a c = none := by
  rw [composePair?, composeSyllable?_of_plain plain]
  simp only [Option.map_eq_none_iff, List.find?_eq_none, Bool.and_eq_true, beq_iff_eq, not_and]
  rintro ⟨x, y, composite⟩ mem - rfl
  refine not_covers_of_apart seconds_apart plain ⟨(c.toNat, c.toNat), ?_, le_rfl, le_rfl⟩
  exact List.mem_map.2 ⟨_, mem, rfl⟩

theorem composePair?_of_space {w : Char} (space : Covers spaceRanges w.toNat) (c : Char) :
    composePair? w c = none := by
  rw [composePair?, composeSyllable?_of_space space]
  simp only [Option.map_eq_none_iff, List.find?_eq_none, Bool.and_eq_true, beq_iff_eq, not_and]
  rintro ⟨x, y, composite⟩ mem rfl
  refine absurd ⟨(w.toNat, w.toNat), ?_, le_rfl, le_rfl⟩ (not_covers_of_apart firsts_apart space)
  exact List.mem_map.2 ⟨_, mem, rfl⟩

section

variable {w : Char} (starter : combiningClass w = 0)

include starter

theorem insertByClass_append (c : Char) (xs ys : List Char) :
    insertByClass c (xs ++ w :: ys) = insertByClass c xs ++ w :: ys := by
  induction xs with
  | nil => simp [insertByClass, starter]
  | cons x xs ih =>
    simp only [List.cons_append, insertByClass, ih]
    split <;> rfl

theorem reorder_cons (ys : List Char) : reorder (w :: ys) = w :: reorder ys := by
  change insertByClass w (reorder ys) = w :: reorder ys
  cases reorder ys with
  | nil => rfl
  | cons c rest => simp [insertByClass, starter]

theorem reorder_append (xs ys : List Char) :
    reorder (xs ++ w :: ys) = reorder xs ++ w :: reorder ys := by
  induction xs with
  | nil => exact reorder_cons starter ys
  | cons x xs ih =>
    change insertByClass x (reorder (xs ++ w :: ys)) = _
    rw [ih, insertByClass_append starter]
    rfl

theorem compose_cons (ys : List Char) : compose (w :: ys) = composeFrom w [] ys := by
  simp [compose, starter]

end

-- Composition starts anew at a plain character, whatever stands before it.

section

variable {w : Char} (plain : Covers plainRanges w.toNat)

include plain

theorem composeFrom_append (base : Char) (pending xs ys : List Char) :
    composeFrom base pending (xs ++ w :: ys) =
      composeFrom base pending xs ++ composeFrom w [] ys := by
  induction xs generalizing base pending with
  | nil => simp [composeFrom, composePair?_of_plain plain, combiningClass_of_plain plain]
  | cons x xs ih =>
    simp only [List.cons_append, composeFrom, ih]
    split
    · rfl
    · split <;> simp

theorem compose_append (xs ys : List Char) :
    compose (xs ++ w :: ys) = compose xs ++ compose (w :: ys) := by
  induction xs with
  | nil => rfl
  | cons x xs ih =>
    rw [compose_cons (combiningClass_of_plain plain)] at ih ⊢
    simp only [List.cons_append, compose, ih, composeFrom_append plain]
    split <;> rfl

theorem nfc_append {c : Char} {rest : List Char} (opens : decomposeChar c = w :: rest)
    (xs ys : List Char) : nfc (xs ++ c :: ys) = nfc xs ++ nfc (c :: ys) := by
  have starter := combiningClass_of_plain plain
  simp only [nfc, List.flatMap_append, List.flatMap_cons, opens, List.cons_append]
  rw [reorder_append starter, compose_append plain, reorder_cons starter]

end

theorem composeFrom_of_space {w : Char} (space : Covers spaceRanges w.toNat)
    (pending ys : List Char) : composeFrom w pending ys = w :: pending.reverse ++ compose ys := by
  induction ys generalizing pending with
  | nil => simp [composeFrom, compose]
  | cons y ys ih =>
    simp only [composeFrom, composePair?_of_space space, ite_self, compose]
    split
    · rfl
    · simp [ih]

theorem decomposeChar_of_solid {c : Char} (solid : Covers solidRanges c.toNat) :
    decomposeChar c = [c] := by
  have missed : decompositions.find? (·.1 == c.toNat) = none := by
    rw [List.find?_eq_none]
    intro e mem same
    rw [beq_iff_eq] at same
    refine not_covers_of_apart decompositions_apart solid ⟨(e.1, e.1), ?_, same.le, same.ge⟩
    exact List.mem_map.2 ⟨e, mem, rfl⟩
  have syllables : hangulBase = 0xAC00 := rfl
  have noSyllable : ¬ (hangulBase ≤ c.toNat && c.toNat < hangulBase + syllableCount) = true := by
    simp only [Covers, solidRanges, List.exists_mem_cons_iff, List.not_mem_nil,
      false_and, exists_false, or_false] at solid
    simp only [Bool.and_eq_true, decide_eq_true_eq, not_and]
    omega
  simp [decomposeChar, missed, noSyllable]

theorem decomposeChar_of_blank {w : Char} (blank : isBlank w = true) :
    ∃ w', decomposeChar w = [w'] ∧ isBlank w' = true := by
  by_cases solid : Covers solidRanges w.toNat
  · exact ⟨w, decomposeChar_of_solid solid, blank⟩
  · have quad : w.toNat = 0x2000 ∨ w.toNat = 0x2001 := by
      have space := covers_of_isBlank blank
      simp only [Covers, solidRanges, spaceRanges, List.exists_mem_cons_iff, List.not_mem_nil,
        false_and, exists_false, or_false] at solid space
      omega
    rcases quad with quad | quad
    · have same : w = Char.ofNat 0x2000 := by rw [← quad, Char.ofNat_toNat]
      exact ⟨Char.ofNat 0x2002, by rw [same]; decide +kernel, by decide⟩
    · have same : w = Char.ofNat 0x2001 := by rw [← quad, Char.ofNat_toNat]
      exact ⟨Char.ofNat 0x2003, by rw [same]; decide +kernel, by decide⟩

theorem lowerChar_of_space {w : Char} (space : Covers spaceRanges w.toNat) : lowerChar w = [w] := by
  have capital : w ≠ dottedCapitalI := by
    rintro rfl
    revert space
    decide
  have missed : lowerRuns.find? (·.covers w.toNat) = none := by
    rw [List.find?_eq_none]
    intro run mem covers
    simp only [CaseRun.covers, Bool.and_eq_true, decide_eq_true_eq] at covers
    refine not_covers_of_apart capitals_apart space ⟨(run.first, run.last), ?_, covers.1⟩
    exact List.mem_map.2 ⟨run, mem, rfl⟩
  rw [lowerChar, if_neg capital, partner, missed]

theorem isMark_of_plain {c : Char} (plain : Covers plainRanges c.toNat) : isMark c = false := by
  by_contra marked
  rw [Bool.not_eq_false] at marked
  exact not_covers_of_apart marks_apart plain (covers_of_inRanges marked)

theorem foldChar_of_blank {w : Char} (blank : isBlank w = true) :
    ∃ w', foldChar w = [w'] ∧ isBlank w' = true := by
  obtain ⟨w', decomposed, blank'⟩ := decomposeChar_of_blank blank
  have unmarked : isMark w' = false :=
    isMark_of_plain (plain_of_space (covers_of_isBlank blank'))
  have letters : w ≠ 'ё' ∧ w ≠ 'й' := by
    constructor <;> rintro rfl <;> revert blank <;> decide
  exact ⟨w', by simp [foldChar, letters, decomposed, unmarked], blank'⟩

theorem foldChars_append_blank {w : Char} (blank : isBlank w = true) :
    ∃ w', isBlank w' = true ∧
      ∀ xs ys, foldChars (xs ++ w :: ys) = foldChars xs ++ w' :: foldChars ys := by
  obtain ⟨u, decomposed, blankU⟩ := decomposeChar_of_blank blank
  obtain ⟨v, folded, blankV⟩ := foldChar_of_blank blankU
  have space := covers_of_isBlank blankU
  have plain := plain_of_space space
  have starter := combiningClass_of_plain plain
  refine ⟨v, blankV, fun xs ys => ?_⟩
  have behind : nfc (w :: ys) = u :: nfc ys := by
    simp only [nfc, List.flatMap_cons, decomposed, List.singleton_append]
    rw [reorder_cons starter, compose_cons starter, composeFrom_of_space space]
    rfl
  simp [foldChars, nfc_append plain decomposed, behind, lowerChar_of_space space, folded]

theorem words_append_blank {w : Char} (blank : isBlank w = true) (xs ys : List Char) :
    words (xs ++ w :: ys) = words xs ++ words ys := by
  rw [words, pieces_append_cons blank, List.filter_append]
  rfl

theorem words_foldChars_append_blank {w : Char} (blank : isBlank w = true) (xs ys : List Char) :
    words (foldChars (xs ++ w :: ys)) = words (foldChars xs) ++ words (foldChars ys) := by
  obtain ⟨w', blank', folded⟩ := foldChars_append_blank blank
  rw [folded, words_append_blank blank']

theorem words_foldChars_blanks {blanks : List Char} (all : ∀ c ∈ blanks, isBlank c = true)
    (cs : List Char) : words (foldChars (blanks ++ cs)) = words (foldChars cs) := by
  induction blanks with
  | nil => rfl
  | cons w blanks ih =>
    have later := ih fun c mem => all c (List.mem_cons_of_mem w mem)
    have parted := words_foldChars_append_blank (all w List.mem_cons_self) [] (blanks ++ cs)
    rw [List.nil_append] at parted
    rw [List.cons_append, parted, later]
    rfl

theorem words_foldChars_padded {before behind : List Char} (cs : List Char)
    (blankBefore : ∀ c ∈ before, isBlank c = true) (blankBehind : ∀ c ∈ behind, isBlank c = true) :
    words (foldChars (before ++ cs ++ behind)) = words (foldChars cs) := by
  rw [List.append_assoc, words_foldChars_blanks blankBefore]
  cases behind with
  | nil => rw [List.append_nil]
  | cons w behind =>
    have rest := words_foldChars_blanks (fun c mem => blankBehind c (List.mem_cons_of_mem w mem)) []
    rw [List.append_nil] at rest
    rw [words_foldChars_append_blank (blankBehind w List.mem_cons_self), rest]
    exact List.append_nil _

theorem fold_trim (s : String) : fold (trim s) = fold s := by
  obtain ⟨before, behind, blankBefore, blankBehind, whole⟩ := eq_padded_trimChars s.toList
  have words := words_foldChars_padded (trimChars s.toList) blankBefore blankBehind
  rw [← whole] at words
  rw [fold, fold, trim, String.toList_ofList, words]

theorem fold_of_blank {s : String} (blank : trim s = "") : fold s = "" := by
  rw [← fold_trim, blank]
  rfl

def IsLetter (c : Char) : Prop := Covers [(0x0000, 0x00BF), (0x0410, 0x044F)] c.toNat

instance : DecidablePred IsLetter := fun _ => inferInstanceAs (Decidable (Covers _ _))

theorem plain_of_isLetter {c : Char} (letter : IsLetter c) : Covers plainRanges c.toNat := by
  simp only [IsLetter, Covers, plainRanges, List.exists_mem_cons_iff, List.not_mem_nil,
    false_and, exists_false, or_false] at letter ⊢
  omega

theorem solid_of_isLetter {c : Char} (letter : IsLetter c) :
    Covers solidRanges c.toNat ∨ c = 'Й' ∨ c = 'й' := by
  by_cases short : c.toNat = 0x0419 ∨ c.toNat = 0x0439
  · right
    rcases short with short | short
    · exact .inl (by rw [← Char.ofNat_toNat c, short])
    · exact .inr (by rw [← Char.ofNat_toNat c, short])
  · left
    simp only [IsLetter, Covers, solidRanges, List.exists_mem_cons_iff, List.not_mem_nil,
      false_and, exists_false, or_false] at letter ⊢
    omega

theorem nfc_of_isLetter {c : Char} (letter : IsLetter c) :
    nfc [c] = [c] ∧ ∃ w rest, decomposeChar c = w :: rest ∧ Covers plainRanges w.toNat := by
  rcases solid_of_isLetter letter with solid | rfl | rfl
  · have alone := decomposeChar_of_solid solid
    have plain := plain_of_isLetter letter
    refine ⟨?_, c, [], alone, plain⟩
    simp [nfc, alone, reorder, insertByClass, compose_cons (combiningClass_of_plain plain),
      composeFrom]
  · exact ⟨by decide +kernel, 'И', [Char.ofNat 0x0306], by decide +kernel, by decide⟩
  · exact ⟨by decide +kernel, 'и', [Char.ofNat 0x0306], by decide +kernel, by decide⟩

theorem nfc_of_letters {cs : List Char} (letters : ∀ c ∈ cs, IsLetter c) : nfc cs = cs := by
  induction cs with
  | nil => rfl
  | cons c rest ih =>
    have alone := (nfc_of_isLetter (letters c List.mem_cons_self)).1
    have later := ih fun d mem => letters d (List.mem_cons_of_mem c mem)
    cases rest with
    | nil => exact alone
    | cons d rest =>
      obtain ⟨-, w, others, opens, plain⟩ := nfc_of_isLetter (letters d (by simp))
      have parted := nfc_append plain opens [c] rest
      rw [alone, later] at parted
      exact parted

theorem foldChar_of_isLetter {c : Char} (letter : IsLetter c) (small : c ≠ 'Й') :
    foldChar c = [c] := by
  have yo : c ≠ 'ё' := by
    rintro rfl
    revert letter
    decide
  rcases solid_of_isLetter letter with solid | capital | rfl
  · rw [foldChar, if_neg yo, decomposeChar_of_solid solid]
    split
    · simp [*]
    · simp [isMark_of_plain (plain_of_isLetter letter)]
  · exact absurd capital small
  · rfl

def isPlain (s : String) : Bool :=
  s.toList.all (IsLetter ·) &&
    (s.toList.flatMap lowerChar).all fun c => decide (IsLetter c) && c != 'Й'

theorem fold_of_isPlain {s : String} (plain : isPlain s = true) :
    fold s = String.ofList (joinWith [' '] (words (s.toList.flatMap lowerChar))) := by
  simp only [isPlain, Bool.and_eq_true, List.all_eq_true, decide_eq_true_eq, bne_iff_ne] at plain
  obtain ⟨letters, small⟩ := plain
  have kept : (s.toList.flatMap lowerChar).flatMap foldChar = s.toList.flatMap lowerChar := by
    refine (List.flatMap_congr fun c mem => ?_).trans (List.flatMap_singleton' _)
    exact foldChar_of_isLetter (small c mem).1 (small c mem).2
  rw [fold, foldChars, nfc_of_letters letters, kept]

theorem nodup_fold_of_isPlain {texts : List String} (plain : ∀ s ∈ texts, isPlain s = true)
    (distinct : (texts.map fun s =>
      String.ofList (joinWith [' '] (words (s.toList.flatMap lowerChar)))).Nodup) :
    (texts.map fold).Nodup := by
  rwa [List.map_congr_left fun s mem => fold_of_isPlain (plain s mem)]

end RefData.Text
