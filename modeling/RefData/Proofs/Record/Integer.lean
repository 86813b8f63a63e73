import Mathlib.Data.Nat.Digits.Defs
import RefData.Proofs.Link.Spelling
import RefData.Proofs.Number.Rounding
set_option autoImplicit false

namespace RefData

variable {cs : List Char} {n : Int}

theorem takeSign_eq (cs : List Char) :
    cs = (takeSign cs).2 ∨ cs = '-' :: (takeSign cs).2 ∨ cs = '+' :: (takeSign cs).2 := by
  unfold takeSign
  split <;> simp

theorem digits_of_readInt? (read : readInt? cs = some n) :
    (takeSign cs).2 ≠ [] ∧ (∀ c ∈ (takeSign cs).2, isDigit c = true) ∧
      n = if (takeSign cs).1 then -(digitsValue (takeSign cs).2 : Int)
        else digitsValue (takeSign cs).2 := by
  unfold readInt? at read
  dsimp only at read
  split at read
  · cases read
  next digits =>
    cases read
    simpa [List.all_eq_true] using digits

theorem of_mem_of_readInt? (read : readInt? cs = some n) {c : Char} (mem : c ∈ cs) :
    c = '-' ∨ c = '+' ∨ isDigit c = true := by
  have digits := (digits_of_readInt? read).2.1
  rcases takeSign_eq cs with bare | minus | plus
  · exact .inr (.inr (digits c (bare ▸ mem)))
  · rw [minus] at mem
    exact (List.mem_cons.1 mem).imp id fun there => .inr (digits c there)
  · rw [plus] at mem
    exact .inr ((List.mem_cons.1 mem).imp id (digits c))

theorem readDecimal?_of_readInt? (read : readInt? cs = some n) :
    readDecimal? cs = some ⟨(takeSign cs).1, (takeSign cs).2, 0⟩ := by
  obtain ⟨filled, digits, -⟩ := digits_of_readInt? read
  unfold readDecimal?
  generalize takeSign cs = parts at *
  obtain ⟨neg, body⟩ := parts
  have whole : body.takeWhile isDigit = body := List.takeWhile_eq_self_iff.2 digits
  have rest : body.dropWhile isDigit = [] := List.dropWhile_eq_nil_iff.2 digits
  simp [whole, rest, List.isEmpty_iff, filled]

namespace Binary64

variable {x : Binary64}

theorem value_zero (neg : Bool) : (zero neg).value = 0 := by
  have nothing : (zero neg).magnitude = 0 := Nat.zero_mul _
  rw [value, nothing, Nat.cast_zero, zero_div, mul_zero]

theorem exists_ofDecimal? {digits : Nat} (small : digits < 2 ^ 64) (neg : Bool) :
    ∃ x, ofDecimal? neg digits 0 = some x ∧ x.IsNearest (if neg then -digits else digits) := by
  by_cases none : digits = 0
  · refine ⟨zero neg, if_pos none, isNearest_of_value_eq ?_⟩
    simp [none, value_zero]
  · obtain ⟨x, made⟩ := exists_ofRatio? small neg
    have few : digitCount digits ≤ 20 := by
      rw [digitCount, if_neg none]
      exact Nat.toDigits_length 10 digits 20 (by decide) (small.trans (by decide))
    refine ⟨x, ?_, isNearest_of_ofRatio? made⟩
    rw [ofDecimal?, if_neg none, if_neg (by omega), if_neg (by omega)]
    simpa using made

theorem mem_layout (digits : List Char) (lead : Int) :
    '.' ∈ layout digits lead ∨ 'e' ∈ layout digits lead := by
  unfold layout
  split
  · split <;> simp
  · simp

theorem mem_text (x : Binary64) : '.' ∈ x.text ∨ 'e' ∈ x.text := by
  have magnitude (digits : List Char) (lead : Int) :
      '.' ∈ (if x.isZero then ['0', '.', '0'] else layout digits lead) ∨
        'e' ∈ (if x.isZero then ['0', '.', '0'] else layout digits lead) := by
    split
    · simp
    · exact mem_layout digits lead
  unfold text
  dsimp only
  split
  · exact (magnitude _ _).imp (List.mem_cons_of_mem _) (List.mem_cons_of_mem _)
  · exact magnitude _ _

theorem readInt?_text (x : Binary64) : readInt? x.text = none := by
  cases read : readInt? x.text with
  | none => rfl
  | some n =>
    rcases x.mem_text with point | exponent
    · exact absurd (of_mem_of_readInt? read point) (by decide)
    · exact absurd (of_mem_of_readInt? read exponent) (by decide)

end Binary64

namespace Json

variable {v : Json} {s : String}

theorem pointForComma_eq_self (none : ',' ∉ cs) : pointForComma cs = cs := by
  induction cs with
  | nil => rfl
  | cons c rest ih =>
    have other : c ≠ ',' := fun same => none (same ▸ List.mem_cons_self)
    have later := ih fun mem => none (List.mem_cons_of_mem c mem)
    rw [pointForComma, if_neg other, later]

theorem integer?_eq_some_iff {x : Binary64} (read : v.number? = some x) (other : v.int64? = none) :
    v.integer? = some n ↔ x.value = n ∧ n.natAbs < 2 ^ 63 := by
  simp [integer?, other, read, Option.filter_eq_some_iff, Binary64.toInt?_eq_some_iff]

theorem le_of_integer? (read : v.integer? = some n) : n ≤ maxInt64 := by
  unfold integer? at read
  split at read
  next m kept =>
    cases read
    cases v with
    | int n =>
      simp only [int64?] at kept
      split at kept
      · cases kept
        assumption
      · cases kept
    | null | bool | float | str | arr | obj => cases kept
  next =>
    have small := (Option.filter_eq_some_iff.1 read).2
    rw [decide_eq_true_eq] at small
    unfold maxInt64
    omega

theorem exists_number?_str (read : readInt64? (Text.trimChars s.toList) = some n) :
    ∃ x, (str s).number? = some x ∧ x.IsNearest n := by
  obtain ⟨whole, fits⟩ := Option.filter_eq_some_iff.1 read
  have clear : ',' ∉ Text.trimChars s.toList :=
    fun mem => absurd (of_mem_of_readInt? whole mem) (by decide)
  have value := (digits_of_readInt? whole).2.2
  rw [number?, pointForComma_eq_self clear, readDecimal?_of_readInt? whole]
  rw [Bool.and_eq_true, decide_eq_true_eq, decide_eq_true_eq] at fits
  unfold minInt64 maxInt64 at fits
  generalize takeSign (Text.trimChars s.toList) = parts at *
  obtain ⟨neg, digits⟩ := parts
  -- Far from exact, but enough for the digits not to round to infinity.
  have small : digitsValue digits < 2 ^ 64 := by
    cases neg <;> simp only [Bool.false_eq_true, if_false, if_true] at value <;> omega
  rw [value]
  exact Binary64.exists_ofDecimal? small neg

theorem integer?_of_not_str (text : v.text? = some s) (read : readInt64? s.toList = some n)
    (other : v.str? = none) : v.integer? = some n := by
  obtain ⟨whole, fits⟩ := Option.filter_eq_some_iff.1 read
  rw [Bool.and_eq_true, decide_eq_true_eq, decide_eq_true_eq] at fits
  cases v with
  | int k =>
    cases text
    rw [String.toList_ofList, readInt?_intText, Option.some_inj] at whole
    simp [integer?, int64?, whole, fits.2]
  | float x =>
    simp only [text?] at text
    split at text
    next k exact =>
      -- A double with an integer text is one, and the text stops short of the range test.
      cases text
      rw [String.toList_ofList, readInt?_intText, Option.some_inj] at whole
      subst k
      obtain ⟨value, small⟩ := Option.filter_eq_some_iff.1 exact
      rw [decide_eq_true_eq, maxExactInt] at small
      exact (integer?_eq_some_iff rfl rfl).2 ⟨Binary64.toInt?_eq_some_iff.1 value, by omega⟩
    next =>
      cases text
      rw [String.toList_ofList, Binary64.readInt?_text] at whole
      cases whole
  | str s => cases other
  | null | bool | arr | obj => cases text

theorem eq_str_of_str? (shape : v.str? = some s) : v = str s := by
  cases v with
  | str t => cases shape; rfl
  | _ => cases shape

theorem text?_str_eq_some {s t : String} (text : (str s).text? = some t) :
    t.toList = Text.trimChars s.toList := by
  simp only [text?, nonempty?] at text
  split at text
  · cases text
  · cases text
    exact String.toList_ofList

theorem text?_str_intText (n : Int) :
    (str (String.ofList (intText n))).text? = some (String.ofList (intText n)) := by
  have filled : (String.ofList (intText n)).isEmpty = false := by simpa using intText_ne_nil n
  rw [text?, Text.trim, String.toList_ofList, Text.trimChars_of_unpadded (unpadded_intText n),
    nonempty?, filled]
  rfl

theorem integer?_str_iff {t : String} (text : (str s).text? = some t)
    (read : readInt64? t.toList = some n) :
    (str s).integer? = some n ↔ (∃ x : Binary64, x.value = n) ∧ n.natAbs < 2 ^ 63 := by
  rw [text?_str_eq_some text] at read
  obtain ⟨x, number, nearest⟩ := exists_number?_str read
  rw [integer?_eq_some_iff number rfl, nearest.value_eq_iff]

/-- The text of a value and its whole number are the same integer, except for a string: that one is
read as the nearest double, so it has to be a double, and it has to be short of `2 ^ 63`. All
integers up to `2 ^ 53` are doubles. -/
theorem readings_agree_on_doubles (n : Int) :
    (∀ (v : Json) (s : String), v.text? = some s → readInt64? s.toList = some n →
      (v.integer? = some n ↔
        v.str? = none ∨ (∃ x : Binary64, x.value = n) ∧ n.natAbs < 2 ^ 63) ∧
      ∀ m, v.integer? = some m → ∀ x : Binary64, |(m - n : ℚ)| ≤ |x.value - n|) ∧
    (minInt64 ≤ n → n ≤ maxInt64 →
      ((str (toString n)).integer? = some n ↔
        (∃ x : Binary64, x.value = n) ∧ n.natAbs < 2 ^ 63)) ∧
    (n.natAbs ≤ 2 ^ 53 → ∃ x : Binary64, x.value = n) := by
  refine ⟨fun v s text read => ?_, fun low high => ?_, Binary64.exists_value_of_le⟩
  · cases shape : v.str? with
    | none =>
      have same := integer?_of_not_str text read shape
      refine ⟨by simp [same], fun m other x => ?_⟩
      cases same.symm.trans other
      simp
    | some t =>
      cases eq_str_of_str? shape
      refine ⟨by rw [integer?_str_iff text read]; simp, fun m other y => ?_⟩
      rw [text?_str_eq_some text] at read
      obtain ⟨x, number, nearest⟩ := exists_number?_str read
      rw [← ((integer?_eq_some_iff number rfl).1 other).1]
      exact nearest y
  · rw [toString_eq_intText]
    refine integer?_str_iff (text?_str_intText n) ?_
    rw [String.toList_ofList]
    exact readInt64?_intText low high

theorem readings_agree_on_padded_id :
    (str " 4503599627370497").integer? = some 4503599627370497 ∧
      (str (toString (4503599627370497 : Int))).integer? = some 4503599627370497 := by
  obtain ⟨values, texts, doubles⟩ := readings_agree_on_doubles 4503599627370497
  have double := doubles (by decide)
  refine ⟨?_, (texts (by decide) (by decide)).2 ⟨double, by decide⟩⟩
  have read := values (str " 4503599627370497") "4503599627370497" (by decide +kernel)
    (by decide +kernel)
  exact read.1.2 (.inr ⟨double, by decide⟩)

theorem readings_can_differ :
    (¬ ∀ (v : Json) (s : String) (n m : Int), v.text? = some s →
      readInt64? s.toList = some n → v.integer? = some m → n = m) ∧
    ¬ ∀ n : Int, minInt64 ≤ n → n ≤ maxInt64 → (str (toString n)).integer? = some n := by
  constructor
  · intro same
    exact absurd (same (str "9007199254740993") "9007199254740993" 9007199254740993
      9007199254740992 (by decide +kernel) (by decide +kernel) (by decide +kernel)) (by decide)
  · intro same
    exact absurd (same minInt64 (by decide) (by decide)) (by decide +kernel)

end Json

end RefData
