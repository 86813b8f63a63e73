import RefData.Proofs.Url.Append
import RefData.Settings
set_option autoImplicit false

namespace RefData.Settings

variable {raw base : String}

theorem normalizeBase_eq_ok_iff :
    normalizeBase raw = .ok base ↔
      base.toList = dropEndSlashes (Text.trimChars raw.toList) ∧
        ∃ b, Url.parse base = .ok b ∧ b.isRootless = false := by
  have same : base.toList = dropEndSlashes (Text.trimChars raw.toList) ↔
      String.ofList (dropEndSlashes (Text.trimChars raw.toList)) = base := by
    rw [← String.toList_inj, String.toList_ofList]
    exact eq_comm
  rw [same]
  simp only [normalizeBase]
  constructor
  · intro accepted
    split at accepted
    · cases accepted
    · split at accepted
      · cases accepted
      next b read =>
        split at accepted
        · cases accepted
        next rooted =>
          have made := Except.ok.inj accepted
          exact ⟨made, b, made ▸ read, by simpa using rooted⟩
  · rintro ⟨rfl, b, read, rooted⟩
    have filled := Url.toList_ne_nil_of_parse read
    rw [if_neg (by simpa using filled), read]
    simp only [rooted]
    rfl

theorem of_normalizeBase (accepted : normalizeBase raw = .ok base) :
    base.toList.getLast? ≠ some '/' ∧ ∃ b, Url.parse base = .ok b ∧ b.isRootless = false := by
  obtain ⟨same, found⟩ := normalizeBase_eq_ok_iff.1 accepted
  refine ⟨fun last => ?_, found⟩
  rw [same] at last
  have notSlash := Text.not_getLast?_dropEndWhile last
  simp at notSlash

theorem head_normalizeBase (accepted : normalizeBase raw = .ok base) :
    ∀ c ∈ base.toList.head?, Text.isBlank c = false := by
  intro c first
  obtain ⟨slashes, whole⟩ := Text.dropEndWhile_isPrefix (· == '/') (Text.trimChars raw.toList)
  apply (Text.unpadded_trimChars raw.toList).1 c
  rw [(normalizeBase_eq_ok_iff.1 accepted).1, dropEndSlashes] at first
  rw [← whole, List.head?_append, Option.mem_def.1 first]
  rfl

-- White space right before the slashes at the end of a text, blanks at the very end left aside.
def PadsSlashes (raw : List Char) : Prop :=
  ∃ front blank slashes behind, raw = front ++ blank :: (slashes ++ behind) ∧
    Text.isBlank blank = true ∧ slashes ≠ [] ∧ (∀ c ∈ slashes, c = '/') ∧
    ∀ c ∈ behind, Text.isBlank c = true

theorem dropEndSlashes_append {slashes : List Char} (all : ∀ c ∈ slashes, c = '/')
    (cs : List Char) : dropEndSlashes (cs ++ slashes) = dropEndSlashes cs :=
  Text.dropEndWhile_append_of_forall (fun c mem => beq_iff_eq.2 (all c mem)) cs

theorem padsSlashes_of_blank_end {cs : List Char} {blank : Char}
    (isBlank : Text.isBlank blank = true)
    (last : (dropEndSlashes (Text.trimChars cs)).getLast? = some blank) : PadsSlashes cs := by
  obtain ⟨before, behind, -, blankBehind, whole⟩ := Text.eq_padded_trimChars cs
  obtain ⟨slashes, all, trimmed⟩ := Text.eq_dropEndWhile_append (· == '/') (Text.trimChars cs)
  obtain ⟨front, same⟩ := List.getLast?_eq_some_iff.1 last
  change Text.trimChars cs = dropEndSlashes _ ++ _ at trimmed
  rw [same] at trimmed
  refine ⟨before ++ front, blank, slashes, behind, ?_, isBlank, ?_, ?_, blankBehind⟩
  · nth_rewrite 1 [whole]
    rw [trimmed]
    simp
  · rintro rfl
    have unpadded := (Text.unpadded_trimChars cs).2 blank (by simp [trimmed])
    rw [isBlank] at unpadded
    cases unpadded
  · simpa using all

theorem blank_end_of_padsSlashes {cs : List Char} (pads : PadsSlashes cs)
    (filled : dropEndSlashes (Text.trimChars cs) ≠ []) :
    ∃ blank, Text.isBlank blank = true ∧
      (dropEndSlashes (Text.trimChars cs)).getLast? = some blank := by
  obtain ⟨front, blank, slashes, behind, rfl, isBlank, slashed, all, blankBehind⟩ := pads
  have ends : (front ++ [blank] ++ slashes).getLast? = some '/' := by
    rw [List.getLast?_append_of_ne_nil _ slashed, List.getLast?_eq_some_getLast slashed,
      all _ (List.getLast_mem slashed)]
  have trimmed : Text.trimChars (front ++ blank :: (slashes ++ behind)) =
      (front ++ [blank] ++ slashes).dropWhile Text.isBlank := by
    rw [← Text.trimChars_append_blanks ends (by decide) blankBehind]
    simp
  rw [trimmed] at filled ⊢
  by_cases stop : (front ++ [blank]).dropWhile Text.isBlank = []
  · -- Nothing but slashes would be left of the text.
    have left : ∀ c ∈ slashes.dropWhile Text.isBlank, c = '/' :=
      fun c mem => all c ((List.dropWhile_sublist _).subset mem)
    rw [List.dropWhile_append_of_pos (List.dropWhile_eq_nil_iff.1 stop)] at filled
    exact absurd (dropEndSlashes_append left []) filled
  · have last : ((front ++ [blank]).dropWhile Text.isBlank).getLast? = some blank := by
      rw [Text.getLast?_dropWhile stop, List.getLast?_concat]
    refine ⟨blank, isBlank, ?_⟩
    rw [Text.dropWhile_append_of_stop stop, dropEndSlashes_append all, dropEndSlashes,
      Text.dropEndWhile_eq_self, last]
    intro c isLast
    rw [last] at isLast
    cases isLast
    exact beq_false_of_ne fun slash => absurd (slash ▸ isBlank) (by decide)

theorem unpadded_iff (accepted : normalizeBase raw = .ok base) :
    Text.Unpadded base.toList ↔ ¬ PadsSlashes raw.toList := by
  obtain ⟨same, b, read, -⟩ := normalizeBase_eq_ok_iff.1 accepted
  have filled := Url.toList_ne_nil_of_parse read
  have starts := head_normalizeBase accepted
  constructor
  · intro unpadded pads
    rw [same] at filled
    obtain ⟨blank, isBlank, last⟩ := blank_end_of_padsSlashes pads filled
    have solid := unpadded.2 blank (same ▸ last)
    rw [isBlank] at solid
    cases solid
  · intro none
    refine ⟨starts, fun c last => ?_⟩
    rw [Bool.eq_false_iff]
    exact fun isBlank => none (padsSlashes_of_blank_end isBlank (same ▸ last))

theorem normalizeBase_self_iff (accepted : normalizeBase raw = .ok base) :
    normalizeBase base = .ok base ↔ Text.Unpadded base.toList := by
  obtain ⟨unfinished, found⟩ := of_normalizeBase accepted
  constructor
  · intro again
    have same := (normalizeBase_eq_ok_iff.1 again).1
    have whole : Text.trimChars base.toList = base.toList := by
      apply (Text.trimChars_infix base.toList).eq_of_length_le
      calc base.toList.length = (dropEndSlashes (Text.trimChars base.toList)).length := by
            rw [← same]
        _ ≤ (Text.trimChars base.toList).length := (Text.dropEndWhile_isPrefix _ _).length_le
    exact whole ▸ Text.unpadded_trimChars base.toList
  · intro unpadded
    refine normalizeBase_eq_ok_iff.2 ⟨?_, found⟩
    rw [Text.trimChars_of_unpadded unpadded, dropEndSlashes, Text.dropEndWhile_eq_self]
    intro c last
    exact beq_false_of_ne fun slash => unfinished (slash ▸ last)

/-- The address of the backend starts with no white space and ends with no slash. It ends with no
white space either, and is taken as it is when it is given again, exactly if no white space stood
before the slashes at the end of what was given first. -/
theorem base_is_settled_unless_slashes_padded (accepted : normalizeBase raw = .ok base) :
    (∀ c ∈ base.toList.head?, Text.isBlank c = false) ∧ base.toList.getLast? ≠ some '/' ∧
    (Text.Unpadded base.toList ↔ ¬ PadsSlashes raw.toList) ∧
    (normalizeBase base = .ok base ↔ ¬ PadsSlashes raw.toList) := by
  have unpadded := unpadded_iff accepted
  exact ⟨head_normalizeBase accepted, (of_normalizeBase accepted).1, unpadded,
    (normalizeBase_self_iff accepted).trans unpadded⟩

theorem base_is_settled_after_slashes :
    normalizeBase " http://h/api// " = .ok "http://h/api" ∧
      ¬ PadsSlashes " http://h/api// ".toList := by
  have accepted : normalizeBase " http://h/api// " = .ok "http://h/api" := by decide +kernel
  have settled := base_is_settled_unless_slashes_padded accepted
  exact ⟨accepted, settled.2.2.2.1 (by decide +kernel)⟩

-- What stood before the slashes is left at the end of the address. Taken again it is another
-- address, or none at all.
theorem base_can_stay_padded :
    (¬ ∀ raw base : String, normalizeBase raw = .ok base →
      Text.Unpadded base.toList ∧ base.toList.getLast? ≠ some '/' ∧
        normalizeBase base = .ok base) ∧
    normalizeBase "http://h /" = .ok "http://h " ∧ normalizeBase "http://h " = .ok "http://h" ∧
    normalizeBase "foo:/ /" = .ok "foo:/ " ∧ (normalizeBase "foo:/ ").isOk = false := by
  have accepted : normalizeBase "http://h /" = .ok "http://h " := by decide +kernel
  refine ⟨fun all => ?_, accepted, by decide +kernel, by decide +kernel, by decide +kernel⟩
  exact absurd (all _ _ accepted).1 (by decide)

end RefData.Settings
