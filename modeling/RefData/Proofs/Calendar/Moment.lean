import Mathlib.Data.Nat.Digits.Defs
import RefData.Proofs.Calendar.Era
import RefData.Proofs.Number
import RefData.Proofs.Text
set_option autoImplicit false

namespace RefData.Date

variable {width n : Nat} {d : Date}

theorem length_padded (positive : 0 < width) (short : n < 10 ^ width) :
    (padded width n).length = width := by
  have fits : (natDigits n).length ≤ width := Nat.toDigits_length 10 n width positive short
  simp only [padded, List.length_append, List.length_replicate]
  omega

theorem isDigit_of_mem_padded {c : Char} (mem : c ∈ padded width n) : isDigit c = true := by
  rcases List.mem_append.1 mem with zero | digit
  · rw [List.eq_of_mem_replicate zero]
    rfl
  · exact isDigit_of_mem_natDigits digit

theorem digitsValue_padded (width n : Nat) : digitsValue (padded width n) = n := by
  have zeros : ∀ k, digitsValue (List.replicate k '0') = 0 := by
    intro k
    induction k with
    | zero => rfl
    | succ k ih => exact ih
  rw [padded, digitsValue, List.foldl_append]
  change (natDigits n).foldl _ (digitsValue _) = n
  rw [zeros]
  exact digitsValue_natDigits n

theorem exists_digit_padded (width n : Nat) :
    ∃ c cs, padded width n = c :: cs ∧ isDigit c = true := by
  have filled : padded width n ≠ [] :=
    List.append_ne_nil_of_right_ne_nil _ Nat.toDigits_ne_nil
  obtain ⟨c, cs, first⟩ := List.exists_cons_of_ne_nil filled
  exact ⟨c, cs, first, isDigit_of_mem_padded (first ▸ List.mem_cons_self)⟩

theorem isEmpty_padded (width n : Nat) : (padded width n).isEmpty = false := by
  obtain ⟨c, cs, first, -⟩ := exists_digit_padded width n
  rw [first]
  rfl

theorem dropWhile_isBlank_padded (width n : Nat) (rest : List Char) :
    (padded width n ++ rest).dropWhile Text.isBlank = padded width n ++ rest := by
  obtain ⟨c, cs, first, digit⟩ := exists_digit_padded width n
  rw [first]
  exact List.dropWhile_cons_of_neg (by simp [Text.not_isBlank_of_isDigit digit])

theorem readField?_padded (positive : 0 < width) (short : n < 10 ^ width) (rest : List Char) :
    readField? width (padded width n ++ rest) = some (n, rest) := by
  have digits : (padded width n).takeWhile isDigit = padded width n :=
    List.takeWhile_eq_self_iff.2 fun c => isDigit_of_mem_padded
  have taken : (padded width n ++ rest).take width = padded width n :=
    List.take_left' (length_padded positive short)
  simp only [readField?, dropWhile_isBlank_padded, taken, digits, isEmpty_padded,
    digitsValue_padded, List.drop_left]
  rfl

theorem signedDigits?_padded (width n : Nat) (rest : List Char) :
    readYear?.signedDigits? (padded width n ++ '-' :: rest) = some (n, '-' :: rest) := by
  have all : ∀ c ∈ padded width n, isDigit c = true := fun c => isDigit_of_mem_padded
  have digits : (padded width n ++ '-' :: rest).takeWhile isDigit = padded width n := by
    rw [Text.takeWhile_append_cons (by decide), List.takeWhile_eq_self_iff.2 all]
  have behind : (padded width n ++ '-' :: rest).dropWhile isDigit = '-' :: rest := by
    rw [Text.dropWhile_append_cons (by decide), List.dropWhile_eq_nil_iff.2 all, List.nil_append]
  simp only [readYear?.signedDigits?, digits, behind, isEmpty_padded, digitsValue_padded]
  rfl

-- What starts with a digit has no sign, so it is read as a year of four digits.
theorem readYear?_padded (short : n < 10000) (rest : List Char) :
    readYear? (padded 4 n ++ rest) = some ((n : Int), rest) := by
  obtain ⟨c, cs, first, digit⟩ := exists_digit_padded 4 n
  have read : readField? 4 (padded 4 n ++ rest) = some (n, rest) :=
    readField?_padded (by decide) short rest
  rw [readYear?, dropWhile_isBlank_padded]
  split
  next behind same =>
    rw [first, List.cons_append, List.cons.injEq] at same
    exact absurd digit (same.1 ▸ by decide)
  next behind same =>
    rw [first, List.cons_append, List.cons.injEq] at same
    exact absurd digit (same.1 ▸ by decide)
  next => rw [read, Option.map_some]

theorem readYear?_yearText (y : Int) (rest : List Char) :
    readYear? (yearText y ++ '-' :: rest) = some (y, '-' :: rest) := by
  by_cases plain : 0 ≤ y ∧ y ≤ 9999
  · have value : (y.toNat : Int) = y := Int.toNat_of_nonneg plain.1
    rw [yearText, if_pos plain, readYear?_padded (by omega), value]
  · rw [yearText, if_neg plain, List.cons_append, readYear?]
    by_cases below : y < 0
    · have value : -(y.natAbs : Int) = y := by omega
      have solid : ('-' :: (padded 4 y.natAbs ++ '-' :: rest)).dropWhile Text.isBlank =
          '-' :: (padded 4 y.natAbs ++ '-' :: rest) := rfl
      simp only [below, if_true, solid, signedDigits?_padded, Option.map_some, value]
    · have value : (y.natAbs : Int) = y := by omega
      have solid : ('+' :: (padded 4 y.natAbs ++ '-' :: rest)).dropWhile Text.isBlank =
          '+' :: (padded 4 y.natAbs ++ '-' :: rest) := rfl
      simp only [below, if_false, solid, signedDigits?_padded, Option.map_some, value]

theorem readIso?_isoText (valid : d.isValid = true) : readIso? d.isoText.toList = some d := by
  obtain ⟨-, months, days⟩ := isValid_iff.1 valid
  have long : daysInMonth d.year d.month ≤ 31 := by
    unfold daysInMonth
    split <;> split <;> omega
  have month : ∀ rest, readField? 2 (padded 2 d.month ++ rest) = some (d.month, rest) :=
    readField?_padded (by decide) (by omega)
  have day : readField? 2 (padded 2 d.day ++ []) = some (d.day, []) :=
    readField?_padded (by decide) (by omega) []
  rw [List.append_nil] at day
  simp only [readIso?, isoText, String.toList_ofList, List.append_assoc, List.cons_append,
    readYear?_yearText, dash?, month, day, Option.bind_eq_bind, Option.bind_some]
  simp [valid]

theorem mem_isoText {c : Char} (mem : c ∈ d.isoText.toList) :
    isDigit c = true ∨ c = '-' ∨ c = '+' := by
  have digit := @isDigit_of_mem_padded
  simp only [isoText, yearText, String.toList_ofList, List.mem_append, List.mem_cons] at mem
  split at mem <;> grind

theorem parse?_isoText (valid : d.isValid = true) : parse? d.isoText = some d := by
  have solid : ∀ c ∈ d.isoText.toList, Text.isBlank c = false := by
    intro c mem
    rcases mem_isoText mem with digit | rfl | rfl
    · exact Text.not_isBlank_of_isDigit digit
    · rfl
    · rfl
  have untimed : ∀ c ∈ d.isoText.toList, (c != 'T' && c != ' ') = true := by
    intro c mem
    rcases mem_isoText mem with digit | rfl | rfl
    · rw [Bool.and_eq_true, bne_iff_ne, bne_iff_ne]
      constructor <;> rintro rfl <;> cases digit
    · rfl
    · rfl
  rw [parse?, Text.trimChars_of_unpadded (Text.unpadded_of_forall solid),
    List.takeWhile_eq_self_iff.2 untimed, readIso?_isoText valid]

theorem isValid_of_parse? {text : String} (read : parse? text = some d) : d.isValid = true := by
  simp only [parse?, readIso?, Option.bind_eq_bind, Option.bind_eq_some_iff] at read
  obtain ⟨_, -, _, -, _, -, _, -, _, -, made⟩ := read
  simp only [Option.ite_none_right_eq_some, Bool.and_eq_true] at made
  obtain ⟨⟨-, valid⟩, made⟩ := made
  cases made
  exact valid

theorem ofMillis?_eq_some_iff {millis : Int} :
    ofMillis? millis = some d ↔ d = ofDays (millis.fdiv millisPerDay) ∧ d.isValid = true := by
  simp only [ofMillis?, Option.ite_none_right_eq_some, Option.some_inj]
  constructor
  · rintro ⟨valid, rfl⟩
    exact ⟨rfl, valid⟩
  · rintro ⟨rfl, valid⟩
    exact ⟨valid, rfl⟩

theorem fdiv_toMillis (d : Date) : d.toMillis.fdiv millisPerDay = d.toDays := by
  rw [toMillis, millisPerDay, Int.fdiv_eq_ediv_of_nonneg _ (by decide)]
  omega

theorem ofMillis?_toMillis (valid : d.isValid = true) : ofMillis? d.toMillis = some d := by
  rw [ofMillis?_eq_some_iff, fdiv_toMillis, ofDays_toDays (isValid_iff.1 valid).2]
  exact ⟨rfl, valid⟩

theorem isSome_ofMillis?_iff (millis : Int) :
    (ofMillis? millis).isSome ↔
      toMillis ⟨minYear, 1, 1⟩ ≤ millis ∧ millis < toMillis ⟨maxYear, 12, 31⟩ + millisPerDay := by
  have found : (ofMillis? millis).isSome ↔ (ofDays (millis.fdiv millisPerDay)).isValid = true := by
    simp only [ofMillis?]
    split <;> simp [*]
  rw [found, isValid_ofDays_iff, toMillis, toMillis, millisPerDay,
    Int.fdiv_eq_ediv_of_nonneg _ (by decide)]
  omega

/-- Dates and moments stand for each other day by day. A moment that has a date is at or after the
midnight that the date's text is read as, and less than a day after it; a text that is a date gives
a midnight, which has that date, and the date's own text gives it again. Every moment in the years
that dates are kept for has a date. -/
theorem dates_and_moments_are_inverse :
    (∀ millis text, (ofMillis? millis).map isoText = some text →
      (parse? text).map toMillis = some (millisPerDay * millis.fdiv millisPerDay)) ∧
    (∀ text millis, (parse? text).map toMillis = some millis →
      millisPerDay ∣ millis ∧ ∃ date, parse? text = some date ∧
        (ofMillis? millis).map isoText = some date.isoText ∧ parse? date.isoText = some date) ∧
    ∀ millis, (ofMillis? millis).isSome ↔
      toMillis ⟨minYear, 1, 1⟩ ≤ millis ∧ millis < toMillis ⟨maxYear, 12, 31⟩ + millisPerDay := by
  refine ⟨fun millis text shown => ?_, fun text millis read => ?_, isSome_ofMillis?_iff⟩
  · obtain ⟨date, found, rfl⟩ := Option.map_eq_some_iff.1 shown
    obtain ⟨rfl, valid⟩ := ofMillis?_eq_some_iff.1 found
    rw [parse?_isoText valid, Option.map_some, toMillis, toDays_ofDays, Int.mul_comm]
  · obtain ⟨date, parsed, rfl⟩ := Option.map_eq_some_iff.1 read
    have valid := isValid_of_parse? parsed
    refine ⟨⟨date.toDays, Int.mul_comm _ _⟩, date, parsed, ?_, parse?_isoText valid⟩
    rw [ofMillis?_toMillis valid, Option.map_some]

theorem dates_and_moments_are_inverse_before_year_zero :
    (ofMillis? (-62167219200001)).map isoText = some "-0001-12-31" ∧
    (parse? "-0001-12-31").map toMillis = some (-62167305600000) ∧
    (parse? " +12024-2-29T10:00").map toMillis = some 317278684800000 ∧
    (ofMillis? 317278684800000).map isoText = some "+12024-02-29" := by
  have shown : (ofMillis? (-62167219200001)).map isoText = some "-0001-12-31" := by decide +kernel
  have read : (parse? " +12024-2-29T10:00").map toMillis = some 317278684800000 := by
    decide +kernel
  have parsed : parse? " +12024-2-29T10:00" = some ⟨12024, 2, 29⟩ := by decide +kernel
  obtain ⟨-, date, same, back, -⟩ := dates_and_moments_are_inverse.2.1 _ _ read
  rw [parsed, Option.some_inj] at same
  subst same
  exact ⟨shown, dates_and_moments_are_inverse.1 _ _ shown, read, back.trans (by decide +kernel)⟩

end RefData.Date
