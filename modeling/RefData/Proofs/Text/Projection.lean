import RefData.Proofs.Text.Settled
set_option autoImplicit false

namespace RefData.Text

def spread (c : Char) : List Char := (lowerChar c).flatMap foldChar

theorem foldChars_eq_spread (cs : List Char) : foldChars cs = (nfc cs).flatMap spread := by
  rw [foldChars, List.flatMap_assoc]
  rfl

theorem spread_of_settled {c : Char} (settled : Settled c) : spread c = [c] := by
  rcases settled with rfl | ⟨whole, lower, unmarked⟩
  · decide +kernel
  · have yo : c ≠ 'ё' := by
      rintro rfl
      revert whole
      decide +kernel
    rw [spread, lower, List.flatMap_singleton, foldChar, if_neg yo]
    split
    next short => rw [short]
    next => simp [whole, unmarked]

theorem spread_of_jamo {part : Nat} (mem : part ∈ jamo) :
    spread (Char.ofNat part) = [Char.ofNat part] := by
  obtain ⟨atom, unmarked⟩ := isAtom_of_jamo mem
  exact spread_of_settled (settled_of_isAtom atom unmarked)

theorem syllables_not_capital :
    rangeBits [(hangulBase, hangulBase + syllableCount - 1)] &&& capitalBits = 0 := by
  decide +kernel

section

variable {index : Nat} (bound : index < syllableCount)

include bound

theorem toNat_syllable : (Char.ofNat (hangulBase + index)).toNat = hangulBase + index := by
  have valid : (hangulBase + index).isValidChar := by
    have syllables : hangulBase = 0xAC00 ∧ syllableCount = 11172 := ⟨rfl, rfl⟩
    simp only [Nat.isValidChar]
    omega
  rw [Char.ofNat, dif_pos valid]
  rfl

theorem lowerChar_syllable :
    lowerChar (Char.ofNat (hangulBase + index)) = [Char.ofNat (hangulBase + index)] := by
  apply lowerChar_of_not_capital
  rw [toNat_syllable bound]
  have inside : (rangeBits [(hangulBase, hangulBase + syllableCount - 1)]).testBit
      (hangulBase + index) = true :=
    testBit_rangeBits.2 ⟨_, List.mem_singleton_self _, Nat.le_add_right _ _, Nat.le_sub_one_of_lt
      (Nat.add_lt_add_left bound _)⟩
  have disjoint := congrArg (Nat.testBit · (hangulBase + index)) syllables_not_capital
  simpa [inside] using disjoint

theorem decomposeChar_syllable : decomposeChar (Char.ofNat (hangulBase + index)) =
    (decomposeSyllable index).map Char.ofNat := by
  have high : ¬ hangulBase + index < 0xC0 := by
    simp only [hangulBase]
    omega
  simp [decomposeChar, toNat_syllable bound, high, bound]

theorem spread_syllable :
    spread (Char.ofNat (hangulBase + index)) = (decomposeSyllable index).map Char.ofNat := by
  have letters (c : Char) (low : c.toNat < hangulBase) : Char.ofNat (hangulBase + index) ≠ c := by
    rintro rfl
    rw [toNat_syllable bound] at low
    omega
  rw [spread, lowerChar_syllable bound, List.flatMap_singleton, foldChar,
    if_neg (letters 'ё' (by decide)), if_neg (letters 'й' (by decide)),
    decomposeChar_syllable bound, List.filter_eq_self]
  intro d mem
  obtain ⟨part, partMem, rfl⟩ := List.mem_map.1 mem
  simp [(isAtom_of_jamo (mem_jamo_of_mem_decomposeSyllable bound partMem)).2]

end

theorem decomposeSyllable_open {lead vowel : Nat} (bound : vowel < vowelCount) :
    decomposeSyllable ((lead * vowelCount + vowel) * tailCount) =
      [leadBase + lead, vowelBase + vowel] := by
  simp only [vowelCount] at bound
  have first : (lead * 21 + vowel) * 28 / (21 * 28) = lead := by omega
  have second : (lead * 21 + vowel) * 28 % (21 * 28) / 28 = vowel := by omega
  simp [decomposeSyllable, vowelCount, tailCount, first, second]

theorem decomposeSyllable_closed {index tail : Nat} (isOpen : index % tailCount = 0)
    (some : 0 < tail) (bound : tail < tailCount) :
    decomposeSyllable (index + tail) = decomposeSyllable index ++ [tailBase + tail] := by
  simp only [tailCount] at isOpen bound
  have first : (index + tail) / (21 * 28) = index / (21 * 28) := by omega
  have second : (index + tail) % (21 * 28) / 28 = index % (21 * 28) / 28 := by omega
  have third : (index + tail) % 28 = tail := by omega
  simp [decomposeSyllable, vowelCount, tailCount, isOpen, first, second, third, some.ne']

theorem spread_composeSyllable? {a b n : Nat} (composed : composeSyllable? a b = some n) :
    spread (Char.ofNat n) = spread (Char.ofNat a) ++ [Char.ofNat b] := by
  rw [composeSyllable?] at composed
  split at composed
  next bounds =>
    simp only [Bool.and_eq_true, decide_eq_true_eq] at bounds
    obtain rfl := Option.some.inj composed
    obtain ⟨lead, rfl⟩ := Nat.exists_eq_add_of_le bounds.1.1.1
    obtain ⟨vowel, rfl⟩ := Nat.exists_eq_add_of_le bounds.1.2
    simp only [Nat.add_lt_add_iff_left, Nat.le_add_right, true_and, and_true] at bounds
    have inside : (lead * vowelCount + vowel) * tailCount < syllableCount := by
      simp only [syllableCount, leadCount, vowelCount, tailCount] at bounds ⊢
      omega
    have jamoLead : leadBase + lead ∈ jamo := by
      simp only [jamo, List.mem_append, List.mem_range'_1]
      omega
    rw [Nat.add_sub_cancel_left, Nat.add_sub_cancel_left, spread_syllable inside,
      decomposeSyllable_open bounds.2, spread_of_jamo jamoLead]
    rfl
  next =>
    split at composed
    next bounds =>
      simp only [Bool.and_eq_true, decide_eq_true_eq, beq_iff_eq] at bounds
      obtain rfl := Option.some.inj composed
      obtain ⟨index, rfl⟩ := Nat.exists_eq_add_of_le bounds.1.1.1.1
      obtain ⟨tail, rfl⟩ := Nat.exists_eq_add_of_le bounds.1.2.le
      rw [Nat.add_sub_cancel_left] at bounds
      have inside : index + tail < syllableCount := by
        simp only [syllableCount, leadCount, vowelCount, tailCount] at bounds ⊢
        omega
      rw [Nat.add_sub_cancel_left, Nat.add_assoc, spread_syllable inside,
        spread_syllable (by omega), decomposeSyllable_closed bounds.1.1.2 (by omega) (by omega),
        List.map_append]
      rfl
    next => cases composed

theorem composites_part_again :
    (composites.all fun e => markBits.testBit e.2.1 ||
      decide (spread (Char.ofNat e.2.2) = spread (Char.ofNat e.1) ++ [Char.ofNat e.2.1])) =
      true := by
  decide +kernel

theorem spread_composePair? {a b x : Char} (composed : composePair? a b = some x)
    (unmarked : isMark b = false) : spread x = spread a ++ [b] := by
  rw [composePair?] at composed
  split at composed
  next n syllable =>
    cases composed
    have parted := spread_composeSyllable? syllable
    rwa [Char.ofNat_toNat, Char.ofNat_toNat] at parted
  next =>
    obtain ⟨e, found, rfl⟩ := Option.map_eq_some_iff.1 composed
    have same := List.find?_some found
    simp only [Bool.and_eq_true, beq_iff_eq] at same
    have parted := List.all_eq_true.1 composites_part_again e (List.mem_of_find?_eq_some found)
    rw [same.1, same.2, ← isMark_eq_testBit, unmarked, Bool.false_or, decide_eq_true_eq,
      Char.ofNat_toNat, Char.ofNat_toNat] at parted
    exact parted

-- A settled text goes through composition with nothing more than a joint here and there, which
-- folding undoes. First one character of it, behind a base and at the start.

theorem decomposeChar_short : decomposeChar 'й' = ['и', Char.ofNat 0x0306] := by decide +kernel

theorem composePair?_short : composePair? 'и' (Char.ofNat 0x0306) = some 'й' := by decide +kernel

theorem combiningClass_short : combiningClass 'и' = 0 := combiningClass_of_plain (by decide)

theorem compose_of_settled {c : Char} (settled : Settled c) (rest : List Char) :
    compose (decomposeChar c ++ rest) = composeFrom c [] rest := by
  rcases settled with rfl | ⟨whole, -, unmarked⟩
  · rw [decomposeChar_short, List.cons_append, compose_cons combiningClass_short]
    simp [composeFrom, composePair?_short]
  · rw [whole, List.singleton_append, compose_cons (combiningClass_of_not_mark unmarked)]

theorem composeFrom_of_settled {c : Char} (settled : Settled c) (base : Char) (rest : List Char) :
    composeFrom base [] (decomposeChar c ++ rest) = base :: composeFrom c [] rest ∨
      ∃ joint, spread joint = spread base ++ [c] ∧
        composeFrom base [] (decomposeChar c ++ rest) = composeFrom joint [] rest := by
  rcases settled with rfl | ⟨whole, -, unmarked⟩
  · have plain : Covers plainRanges 'и'.toNat := by decide
    rw [decomposeChar_short]
    exact .inl (by simp [composeFrom, composePair?_of_plain plain, combiningClass_short,
      composePair?_short])
  · have starter := combiningClass_of_not_mark unmarked
    rw [whole, List.singleton_append]
    cases pair : composePair? base c with
    | none => exact .inl (by simp [composeFrom, pair, starter])
    | some joint =>
      exact .inr ⟨joint, spread_composePair? pair unmarked, by simp [composeFrom, pair]⟩

theorem spread_composeFrom {cs : List Char} (settled : ∀ c ∈ cs, Settled c) (base : Char) :
    (composeFrom base [] (cs.flatMap decomposeChar)).flatMap spread = spread base ++ cs := by
  induction cs generalizing base with
  | nil => simp [composeFrom]
  | cons c rest ih =>
    have here := settled c List.mem_cons_self
    have later := ih fun d mem => settled d (List.mem_cons_of_mem c mem)
    rw [List.flatMap_cons]
    rcases composeFrom_of_settled here base (rest.flatMap decomposeChar) with
      apart | ⟨joint, parts, joined⟩
    · rw [apart, List.flatMap_cons, later, spread_of_settled here]
      rfl
    · rw [joined, later, parts, List.append_assoc]
      rfl

-- There is nothing to reorder: the only mark is the breve behind an и, and no other follows it.

theorem opens_of_settled {c : Char} (settled : Settled c) :
    ∃ w marks, decomposeChar c = w :: marks ∧ combiningClass w = 0 := by
  rcases settled with rfl | ⟨whole, -, unmarked⟩
  · exact ⟨_, _, decomposeChar_short, combiningClass_short⟩
  · exact ⟨c, [], whole, combiningClass_of_not_mark unmarked⟩

theorem insertByClass_of_settled {cs : List Char} (settled : ∀ c ∈ cs, Settled c) (mark : Char) :
    insertByClass mark (cs.flatMap decomposeChar) = mark :: cs.flatMap decomposeChar := by
  cases cs with
  | nil => rfl
  | cons c rest =>
    obtain ⟨w, marks, decomposed, starter⟩ := opens_of_settled (settled c List.mem_cons_self)
    simp [decomposed, insertByClass, starter]

theorem reorder_of_settled {cs : List Char} (settled : ∀ c ∈ cs, Settled c) :
    reorder (cs.flatMap decomposeChar) = cs.flatMap decomposeChar := by
  induction cs with
  | nil => rfl
  | cons c rest ih =>
    have restSettled : ∀ d ∈ rest, Settled d := fun d mem => settled d (List.mem_cons_of_mem c mem)
    have later := ih restSettled
    rw [List.flatMap_cons]
    rcases settled c List.mem_cons_self with rfl | ⟨whole, -, unmarked⟩
    · have breve : reorder (Char.ofNat 0x0306 :: rest.flatMap decomposeChar) =
          Char.ofNat 0x0306 :: rest.flatMap decomposeChar := by
        change insertByClass _ (reorder _) = _
        rw [later, insertByClass_of_settled restSettled]
      rw [decomposeChar_short, List.cons_append, List.singleton_append,
        reorder_cons combiningClass_short, breve]
    · rw [whole, List.singleton_append, reorder_cons (combiningClass_of_not_mark unmarked), later]

theorem foldChars_of_settled {cs : List Char} (settled : ∀ c ∈ cs, Settled c) :
    foldChars cs = cs := by
  rw [foldChars_eq_spread, nfc, reorder_of_settled settled]
  cases cs with
  | nil => rfl
  | cons c rest =>
    have here := settled c List.mem_cons_self
    rw [List.flatMap_cons, compose_of_settled here,
      spread_composeFrom fun d mem => settled d (List.mem_cons_of_mem c mem),
      spread_of_settled here]
    rfl

theorem of_mem_words {cs w : List Char} (mem : w ∈ words cs) :
    w ≠ [] ∧ ∀ c ∈ w, isBlank c = false ∧ c ∈ cs := by
  rw [words, List.mem_filter] at mem
  exact ⟨by simpa using mem.2, fun c => not_divides_of_mem_pieces mem.1⟩

section

variable {cs xs ys : List Char} {c : Char}

theorem pieces_spaced (some : words cs ≠ []) :
    pieces isBlank (joinWith [' '] (words cs)) = words cs := by
  have solid : ∀ w ∈ words cs, ∀ c ∈ w, isBlank c = false :=
    fun w mem c inside => ((of_mem_words mem).2 c inside).1
  cases parts : words cs with
  | nil => exact absurd parts some
  | cons w ws =>
    have divides : isBlank ' ' = true := by decide
    have nothing : ∀ d ∈ ([] : List Char), isBlank d = false := by simp
    simpa using pieces_joinWith divides nothing (parts ▸ solid)

theorem words_spaced (cs : List Char) : words (joinWith [' '] (words cs)) = words cs := by
  by_cases some : words cs = []
  · rw [some]
    rfl
  · nth_rewrite 1 [words]
    rw [pieces_spaced some, List.filter_eq_self]
    intro w mem
    simpa using (of_mem_words mem).1

theorem of_blank_in_spaced (whole : joinWith [' '] (words cs) = xs ++ c :: ys)
    (blank : isBlank c = true) :
    c = ' ' ∧ [] ∉ pieces isBlank xs ∧ [] ∉ pieces isBlank ys := by
  have mem : c ∈ joinWith [' '] (words cs) := by simp [whole]
  have some : words cs ≠ [] := by
    intro none
    simp [none, joinWith] at mem
  have filled : [] ∉ words cs := fun mem => (of_mem_words mem).1 rfl
  rw [← pieces_spaced some, whole, pieces_append_cons blank, List.mem_append, not_or] at filled
  refine ⟨?_, filled⟩
  rcases mem_joinWith mem with inSep | ⟨w, wordMem, inside⟩
  · exact List.mem_singleton.1 inSep
  · rw [((of_mem_words wordMem).2 c inside).1] at blank
    cases blank

theorem unpadded_spaced (cs : List Char) : Unpadded (joinWith [' '] (words cs)) := by
  constructor
  · intro c first
    by_contra blank
    obtain ⟨ys, whole⟩ := List.head?_eq_some_iff.1 first
    rw [← List.nil_append (c :: ys)] at whole
    exact (of_blank_in_spaced whole (by simpa using blank)).2.1 List.mem_cons_self
  · intro c last
    by_contra blank
    obtain ⟨xs, whole⟩ := List.getLast?_eq_some_iff.1 last
    exact (of_blank_in_spaced whole (by simpa using blank)).2.2 List.mem_cons_self

theorem single_in_spaced (cs : List Char) : ¬ [' ', ' '] <:+: joinWith [' '] (words cs) := by
  rintro ⟨xs, ys, whole⟩
  have blank : isBlank ' ' = true := by decide
  have parted : joinWith [' '] (words cs) = xs ++ ' ' :: ' ' :: ys := by simp [← whole]
  refine (of_blank_in_spaced parted blank).2.2 ?_
  simp [pieces, blank]

end

theorem toList_fold (s : String) :
    (fold s).toList = joinWith [' '] (words (foldChars s.toList)) := String.toList_ofList

theorem words_fold (s : String) : words (fold s).toList = words (foldChars s.toList) := by
  rw [toList_fold, words_spaced]

theorem fold_eq_of_words {s t : String}
    (same : words (foldChars s.toList) = words (foldChars t.toList)) : fold s = fold t := by
  rw [fold, same, fold]

theorem settled_of_mem_fold {s : String} {c : Char} (mem : c ∈ (fold s).toList) : Settled c := by
  rw [toList_fold] at mem
  rcases mem_joinWith mem with inSep | ⟨w, wordMem, inside⟩
  · rw [List.mem_singleton.1 inSep]
    decide +kernel
  · exact settled_of_mem_foldChars ((of_mem_words wordMem).2 c inside).2

theorem fold_fold (s : String) : fold (fold s) = fold s := by
  have kept : foldChars (fold s).toList = (fold s).toList :=
    foldChars_of_settled fun c mem => settled_of_mem_fold mem
  exact fold_eq_of_words (by rw [kept, words_fold])

theorem blank_of_mem_fold {s : String} {c : Char} (mem : c ∈ (fold s).toList)
    (blank : isBlank c = true) : c = ' ' := by
  obtain ⟨xs, ys, whole⟩ := List.append_of_mem mem
  rw [toList_fold] at whole
  exact (of_blank_in_spaced whole blank).1

theorem words_foldChars_between {w : Char} {between : List Char} (blank : isBlank w = true)
    (blanks : ∀ c ∈ between, isBlank c = true) (xs ys : List Char) :
    words (foldChars (xs ++ w :: between ++ ys)) =
      words (foldChars xs) ++ words (foldChars ys) := by
  rw [List.append_assoc, List.cons_append, words_foldChars_append_blank blank,
    words_foldChars_blanks blanks]

/-- Folding is a projection that goes word by word: a folded text stays as it is, its words stand
one space apart, and white space does no more than divide them. -/
theorem folding_is_wordwise_projection :
    (∀ s, fold (fold s) = fold s) ∧
    (∀ s, Unpadded (fold s).toList ∧ (∀ c ∈ (fold s).toList, isBlank c = true → c = ' ') ∧
      ¬ [' ', ' '] <:+: (fold s).toList) ∧
    (∀ (a b : String) (w : Char), isBlank w = true →
      words (fold (a ++ w.toString ++ b)).toList =
        words (fold a).toList ++ words (fold b).toList) ∧
    (∀ before s behind : String, (∀ c ∈ before.toList, isBlank c = true) →
      (∀ c ∈ behind.toList, isBlank c = true) → fold (before ++ s ++ behind) = fold s) ∧
    ∀ a between b : String, between ≠ "" → (∀ c ∈ between.toList, isBlank c = true) →
      fold (a ++ between ++ b) = fold (a ++ " " ++ b) := by
  refine ⟨fold_fold, fun s => ⟨?_, fun c mem => blank_of_mem_fold mem, ?_⟩, ?_, ?_, ?_⟩
  · rw [toList_fold]
    exact unpadded_spaced _
  · rw [toList_fold]
    exact single_in_spaced _
  · intro a b w blank
    have parted := words_foldChars_append_blank blank a.toList b.toList
    simpa [words_fold] using parted
  · intro before s behind blankBefore blankBehind
    apply fold_eq_of_words
    simpa using words_foldChars_padded s.toList blankBefore blankBehind
  · intro a between b some blanks
    apply fold_eq_of_words
    cases run : between.toList with
    | nil => exact absurd (String.toList_eq_nil_iff.1 run) some
    | cons w rest =>
      rw [run] at blanks
      have long := words_foldChars_between (blanks w List.mem_cons_self)
        (fun c mem => blanks c (List.mem_cons_of_mem w mem)) a.toList b.toList
      have short := words_foldChars_append_blank (by decide : isBlank ' ' = true) a.toList b.toList
      simpa [run, short] using long

theorem folding_is_wordwise_projection_quad :
    isBlank (Char.ofNat 0x2001) = true ∧
      words (fold ("Ёлка" ++ (Char.ofNat 0x2001).toString ++ "Йод")).toList =
        words (fold "Ёлка").toList ++ words (fold "Йод").toList ∧
      fold (" \t " ++ "Йод" ++ " ") = fold "Йод" ∧
      fold ("Ёлка" ++ " \t " ++ "Йод") = fold ("Ёлка" ++ " " ++ "Йод") := by
  obtain ⟨-, -, parts, ends, runs⟩ := folding_is_wordwise_projection
  have run : ∀ c ∈ " \t ".toList, isBlank c = true := List.all_eq_true.1 (by decide)
  have single : ∀ c ∈ " ".toList, isBlank c = true := List.all_eq_true.1 (by decide)
  exact ⟨by decide, parts _ _ _ (by decide), ends _ _ _ run single, runs _ _ _ (by decide) run⟩

end RefData.Text
