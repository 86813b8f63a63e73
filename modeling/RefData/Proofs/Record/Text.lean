import RefData.Proofs.Number
import RefData.Proofs.Text
import RefData.Record.Scalar
set_option autoImplicit false

namespace RefData

theorem of_mem_intText {n : Int} {c : Char} (mem : c ∈ intText n) : c = '-' ∨ isDigit c = true := by
  rw [intText] at mem
  split at mem
  · exact (List.mem_cons.1 mem).imp_right isDigit_of_mem_natDigits
  · exact .inr (isDigit_of_mem_natDigits mem)

namespace Binary64

theorem of_mem_layout {digits : List Char} {lead : Int} (all : ∀ d ∈ digits, isDigit d = true)
    {c : Char} (mem : c ∈ layout digits lead) :
    isDigit c = true ∨ c ∈ ['.', 'e', '+', '-'] := by
  have zeros {n : Nat} (mem : c ∈ List.replicate n '0') : isDigit c = true := by
    rw [List.eq_of_mem_replicate mem]
    rfl
  have exponent {n : Nat} (mem : c ∈ natDigits n) : isDigit c = true := isDigit_of_mem_natDigits mem
  unfold layout at mem
  split at mem
  · split at mem
    · simp only [List.mem_cons, List.mem_append] at mem
      rcases mem with rfl | rfl | mem | mem
      · exact .inl rfl
      · exact .inr (by simp)
      · exact .inl (zeros mem)
      · exact .inl (all c mem)
    · simp only [List.mem_append, List.mem_cons] at mem
      rcases mem with mem | rfl | mem
      · rcases List.mem_append.1 (List.mem_of_mem_take mem) with mem | mem
        · exact .inl (all c mem)
        · exact .inl (zeros mem)
      · exact .inr (by simp)
      · split at mem
        · rw [List.mem_singleton.1 mem]
          exact .inl rfl
        · exact .inl (all c (List.mem_of_mem_drop mem))
  · simp only [List.mem_append, List.mem_cons] at mem
    rcases mem with mem | rfl | rfl | mem
    · split at mem <;> simp only [List.mem_cons, List.not_mem_nil, or_false] at mem
      · exact .inl (all c (by simp [mem]))
      · rcases mem with rfl | rfl | mem
        · exact .inl (all c List.mem_cons_self)
        · exact .inr (by simp)
        · exact .inl (all c (List.mem_cons_of_mem _ mem))
    · exact .inr (by simp)
    · exact .inr (by split <;> simp)
    · exact .inl (exponent mem)

theorem not_isBlank_of_mem_text {x : Binary64} {c : Char} (mem : c ∈ x.text) :
    Text.isBlank c = false := by
  have magnitude {digits : List Char} {lead : Int} (all : ∀ d ∈ digits, isDigit d = true)
      (mem : c ∈ if x.isZero then ['0', '.', '0'] else layout digits lead) :
      isDigit c = true ∨ c ∈ ['.', 'e', '+', '-'] := by
    split at mem
    · simp only [List.mem_cons, List.not_mem_nil, or_false] at mem
      rcases mem with rfl | rfl | rfl <;> decide
    · exact of_mem_layout all mem
  have significant {n : Nat} :
      ∀ d ∈ ((natDigits n).reverse.dropWhile (· == '0')).reverse, isDigit d = true := by
    intro d mem
    have kept := (List.dropWhile_sublist _).subset (List.mem_reverse.1 mem)
    exact isDigit_of_mem_natDigits (List.mem_reverse.1 kept)
  have known : isDigit c = true ∨ c ∈ ['.', 'e', '+', '-'] := by
    unfold text at mem
    dsimp only at mem
    split at mem
    · rcases List.mem_cons.1 mem with rfl | mem
      · exact .inr (by simp)
      · exact magnitude significant mem
    · exact magnitude significant mem
  have marks : ['.', 'e', '+', '-'].all (!Text.isBlank ·) = true := by decide
  rcases known with digit | mark
  · exact Text.not_isBlank_of_isDigit digit
  · simpa using List.all_eq_true.1 marks c mark

end Binary64

namespace Json

theorem unpadded_intText (n : Int) : Text.Unpadded (intText n) := by
  apply Text.unpadded_of_forall
  intro c mem
  rcases of_mem_intText mem with rfl | digit
  · decide
  · exact Text.not_isBlank_of_isDigit digit

theorem intText_ne_nil (n : Int) : intText n ≠ [] := by
  intro empty
  have read := readInt?_intText n
  rw [empty] at read
  cases read

theorem text?_str {s : String} (unpadded : Text.Unpadded s.toList) :
    (str s).text? = nonempty? s := by
  rw [text?, Text.trim, Text.trimChars_of_unpadded unpadded, String.ofList_toList]

theorem getD_nonempty? (s : String) : (nonempty? s).getD "" = s := by
  unfold nonempty?
  split
  next none => rw [Option.getD_none, String.isEmpty_iff.1 none]
  next => rfl

theorem text?_ofStr? {s : Option String}
    (tidy : ∀ t ∈ s, t ≠ "" ∧ Text.Unpadded t.toList) : (ofStr? s).text? = s := by
  cases s with
  | none => rfl
  | some t =>
    obtain ⟨filled, unpadded⟩ := tidy t rfl
    change (str t).text? = some t
    simp [text?_str unpadded, nonempty?, filled]

@[simp] theorem ofInt?_some (n : Int) : ofInt? (some n) = int n := rfl

theorem integer?_ofInt? {n : Option Int} (fits : ∀ k ∈ n, k ≤ maxInt64) :
    (ofInt? n).integer? = n := by
  cases n with
  | none => rfl
  | some k =>
    simp [integer?, int64?, fits k rfl]

theorem unpadded_textOrEmpty (v : Json) : Text.Unpadded v.textOrEmpty.toList := by
  have empty : Text.Unpadded "".toList := by decide
  rw [textOrEmpty]
  cases v with
  | str s =>
    rw [text?, getD_nonempty?, Text.trim, String.toList_ofList]
    exact Text.unpadded_trimChars s.toList
  | int n =>
    rw [text?, Option.getD_some, String.toList_ofList]
    exact unpadded_intText n
  | float x =>
    rw [text?]
    cases exactInt? x with
    | some n =>
      rw [Option.getD_some, String.toList_ofList]
      exact unpadded_intText n
    | none =>
      rw [Option.getD_some, String.toList_ofList]
      exact Text.unpadded_of_forall fun c => Binary64.not_isBlank_of_mem_text
  | null | bool | arr | obj => exact empty

theorem textOrEmpty_str {s : String} (unpadded : Text.Unpadded s.toList) :
    (str s).textOrEmpty = s := by
  rw [textOrEmpty, text?_str unpadded, getD_nonempty?]

end Json

end RefData
