import Mathlib.Data.List.Forall2
import RefData.Proofs.Record.Integer
set_option autoImplicit false

namespace RefData.Json

variable {c : Char} {cs rest gap : List Char} {s t : String}

theorem isBreak_iff : isBreak c = true ↔ c = '\r' ∨ c = '\n' := by
  rw [isBreak, Bool.or_eq_true, beq_iff_eq, beq_iff_eq]

theorem not_isBreak_of_not_isBlank (solid : Text.isBlank c = false) : isBreak c = false := by
  by_contra kind
  have blank : Text.isBlank c = true := by
    rcases isBreak_iff.1 (by simpa using kind) with rfl | rfl <;> rfl
  simp [blank] at solid

-- A text is seen as its plain characters, which are no line breaks, and the gaps before, between
-- and behind them, which hold nothing else. A gap may be empty.

def plain (cs : List Char) : List Char := cs.filter (!isBreak ·)

def gaps (cs : List Char) : List (List Char) := Text.pieces (!isBreak ·) cs

theorem eq_of_gaps {xs ys : List Char} (parts : gaps xs = gaps ys) (others : plain xs = plain ys) :
    xs = ys :=
  Text.eq_of_pieces parts others

theorem exists_gaps (cs : List Char) : ∃ first later, gaps cs = first :: later :=
  List.exists_cons_of_ne_nil (Text.pieces_ne_nil _ cs)

theorem gaps_cons_plain (other : isBreak c = false) : gaps (c :: rest) = [] :: gaps rest := by
  simp [gaps, Text.pieces, other]

theorem gaps_cons_break {first : List Char} {later : List (List Char)} (here : isBreak c = true)
    (behind : gaps rest = first :: later) : gaps (c :: rest) = (c :: first) :: later := by
  rw [gaps] at behind ⊢
  simp [Text.pieces, here, behind]

theorem of_mem_gaps (mem : gap ∈ gaps cs) (inside : c ∈ gap) : c = '\r' ∨ c = '\n' := by
  simpa [isBreak_iff] using (Text.not_divides_of_mem_pieces mem inside).1

theorem break_mem_iff (mem : gap ∈ gaps cs) : '\r' ∈ gap ∨ '\n' ∈ gap ↔ gap ≠ [] := by
  constructor
  · rintro (inside | inside) <;> exact List.ne_nil_of_mem inside
  · intro some
    obtain ⟨c, inside⟩ := List.exists_mem_of_ne_nil gap some
    rcases of_mem_gaps mem inside with rfl | rfl
    · exact .inl inside
    · exact .inr inside

def feed : List Char → List Char
  | [] => []
  | _ :: _ => ['\n']

theorem feed_feed (gap : List Char) : feed (feed gap) = feed gap := by
  cases gap <;> rfl

theorem mem_feed : '\n' ∈ feed gap ↔ gap ≠ [] := by
  cases gap <;> simp [feed]

theorem eq_feed {joined : List Char} (settled : feed joined = joined)
    (stands : '\n' ∈ joined ↔ gap ≠ []) : joined = feed gap := by
  rw [← settled, mem_feed] at stands
  cases gap with
  | nil => simpa [feed] using stands
  | cons c rest =>
    rw [← settled]
    cases joined with
    | nil => simp at stands
    | cons d more => rfl

theorem plain_joinBreaks (inBreak : Bool) (cs : List Char) :
    plain (joinBreaks inBreak cs) = plain cs := by
  have breaks : isBreak '\n' = true := rfl
  induction cs generalizing inBreak with
  | nil => rfl
  | cons c rest ih =>
    by_cases kind : isBreak c
    · cases inBreak <;> simpa [joinBreaks, plain, kind, breaks] using ih true
    · simpa [joinBreaks, plain, kind] using ih false

-- Inside a gap its line feed is already written, so that nothing is left to write of the first gap.
theorem gaps_joinBreaks {first : List Char} {later : List (List Char)}
    (parted : gaps cs = first :: later) (inBreak : Bool) :
    gaps (joinBreaks inBreak cs) = (if inBreak then [] else feed first) :: later.map feed := by
  induction cs generalizing first later inBreak with
  | nil =>
    cases parted
    cases inBreak <;> rfl
  | cons c rest ih =>
    obtain ⟨next, others, behind⟩ := exists_gaps rest
    by_cases kind : isBreak c
    · rw [gaps_cons_break kind behind] at parted
      cases parted
      have joined := ih behind true
      cases inBreak with
      | false =>
        rw [joinBreaks, if_pos kind, if_neg Bool.false_ne_true, gaps_cons_break rfl joined]
        rfl
      | true =>
        rw [joinBreaks, if_pos kind, if_pos rfl, joined]
        rfl
    · have other : isBreak c = false := by simpa using kind
      rw [gaps_cons_plain other, behind] at parted
      cases parted
      rw [joinBreaks, if_neg kind, gaps_cons_plain other, ih behind false]
      cases inBreak <;> rfl

theorem gaps_joinBreaks_false (cs : List Char) :
    gaps (joinBreaks false cs) = (gaps cs).map feed := by
  obtain ⟨first, later, parted⟩ := exists_gaps cs
  rw [gaps_joinBreaks parted, parted]
  rfl

theorem feed_of_single (noReturn : '\r' ∉ cs) (single : ¬ ['\n', '\n'] <:+: cs)
    (mem : gap ∈ gaps cs) : feed gap = gap := by
  have part : gap <:+: cs := Text.infix_of_mem_pieces mem
  have feeds (c : Char) (inside : c ∈ gap) : c = '\n' := by
    refine (of_mem_gaps mem inside).resolve_left ?_
    rintro rfl
    exact noReturn (part.subset inside)
  match gap, feeds, part with
  | [], _, _ => rfl
  | [c], feeds, _ =>
    rw [feeds c (by simp)]
    rfl
  | c :: d :: more, feeds, part =>
    rw [feeds c (by simp), feeds d (by simp)] at part
    exact absurd ((List.prefix_append ['\n', '\n'] more).isInfix.trans part) single

theorem not_infix_of_feed {run : List Char} (settled : ∀ gap ∈ gaps cs, feed gap = gap)
    (breaks : ∀ c ∈ run, isBreak c = true) (long : ¬ run <:+: ['\n']) : ¬ run <:+: cs := by
  intro inside
  have none : ∀ c ∈ run, (!isBreak c) = false := fun c mem => by simp [breaks c mem]
  obtain ⟨gap, mem, part⟩ := Text.exists_piece_of_infix inside none
  rw [← settled gap mem] at part
  cases gap with
  | nil => exact long (part.trans List.nil_infix)
  | cons c rest => exact long part

theorem single_joinBreaks (cs : List Char) :
    '\r' ∉ joinBreaks false cs ∧ ¬ ['\n', '\n'] <:+: joinBreaks false cs := by
  have settled : ∀ gap ∈ gaps (joinBreaks false cs), feed gap = gap := by
    rw [gaps_joinBreaks_false, List.forall_mem_map]
    exact fun gap _ => feed_feed gap
  have noReturn : ¬ ['\r'] <:+: joinBreaks false cs :=
    not_infix_of_feed settled (by simp [isBreak]) (by decide)
  rw [List.singleton_infix_iff] at noReturn
  exact ⟨noReturn, not_infix_of_feed settled (by simp [isBreak]) (by decide)⟩

theorem joinBreaks_append_plain (other : isBreak c = false) (inBreak : Bool)
    (before behind : List Char) :
    joinBreaks inBreak (before ++ c :: behind) =
      joinBreaks inBreak before ++ c :: joinBreaks false behind := by
  induction before generalizing inBreak with
  | nil => simp [joinBreaks, other]
  | cons d before ih =>
    by_cases kind : isBreak d
    · cases inBreak <;> simp [joinBreaks, kind, ih]
    · simp [joinBreaks, kind, ih]

theorem joinBreaks_ne_nil (some : cs ≠ []) : joinBreaks false cs ≠ [] := by
  cases cs with
  | nil => exact absurd rfl some
  | cons c rest => by_cases kind : isBreak c <;> simp [joinBreaks, kind]

theorem unpadded_joinBreaks (unpadded : Text.Unpadded cs) :
    Text.Unpadded (joinBreaks false cs) := by
  constructor
  · cases cs with
    | nil => exact unpadded.1
    | cons c rest =>
      have other := not_isBreak_of_not_isBlank (unpadded.1 c rfl)
      rw [← List.nil_append (c :: rest), joinBreaks_append_plain other]
      exact unpadded.1
  · rcases List.eq_nil_or_concat cs with rfl | ⟨front, c, rfl⟩
    · exact unpadded.2
    · have solid : Text.isBlank c = false := unpadded.2 c (by simp)
      have joined := joinBreaks_append_plain (not_isBreak_of_not_isBlank solid) false front []
      simpa [joined, joinBreaks] using solid

-- Lines as they are given: at least one, none of them empty, one line feed between two of them and
-- no white space around all of them.
structure IsLines (t : String) : Prop where
  filled : t ≠ ""
  noReturn : '\r' ∉ t.toList
  single : ¬ ['\n', '\n'] <:+: t.toList
  unpadded : Text.Unpadded t.toList

-- Only line breaks change: all other characters stay in their order, and there is a line feed
-- between two of them exactly if there was a carriage return or a line feed between them.
structure Joins (s t : String) : Prop where
  others : plain t.toList = plain s.toList
  feeds : List.Forall₂ (fun gap joined => '\n' ∈ joined ↔ '\r' ∈ gap ∨ '\n' ∈ gap)
    (gaps s.toList) (gaps t.toList)

theorem isLines_joinBreaks (filled : s ≠ "") (unpadded : Text.Unpadded s.toList) :
    IsLines (String.ofList (joinBreaks false s.toList)) := by
  have some : joinBreaks false s.toList ≠ [] := joinBreaks_ne_nil (by simpa using filled)
  refine ⟨by simpa using some, ?_, ?_, ?_⟩ <;> rw [String.toList_ofList]
  · exact (single_joinBreaks s.toList).1
  · exact (single_joinBreaks s.toList).2
  · exact unpadded_joinBreaks unpadded

theorem joins_joinBreaks (s : String) : Joins s (String.ofList (joinBreaks false s.toList)) := by
  constructor
  · rw [String.toList_ofList, plain_joinBreaks]
  · rw [String.toList_ofList, gaps_joinBreaks_false, List.forall₂_map_right_iff,
      List.forall₂_same]
    exact fun gap mem => mem_feed.trans (break_mem_iff mem).symm

theorem eq_map_feed {before after : List (List Char)}
    (feeds : List.Forall₂ (fun gap joined => '\n' ∈ joined ↔ '\r' ∈ gap ∨ '\n' ∈ gap) before after)
    (breaks : ∀ gap ∈ before, '\r' ∈ gap ∨ '\n' ∈ gap ↔ gap ≠ [])
    (settled : ∀ gap ∈ after, feed gap = gap) : after = before.map feed := by
  induction feeds with
  | nil => rfl
  | cons here _ ih =>
    obtain ⟨breaksHere, breaksLater⟩ := List.forall_mem_cons.1 breaks
    obtain ⟨settledHere, settledLater⟩ := List.forall_mem_cons.1 settled
    rw [List.map_cons, ← ih breaksLater settledLater,
      ← eq_feed settledHere (here.trans breaksHere)]

theorem Joins.eq_joinBreaks (joins : Joins s t) (lines : IsLines t) :
    t = String.ofList (joinBreaks false s.toList) := by
  have parts := eq_map_feed joins.feeds (fun gap => break_mem_iff)
    fun gap => feed_of_single lines.noReturn lines.single
  rw [← String.toList_inj, String.toList_ofList]
  apply eq_of_gaps
  · rw [parts, gaps_joinBreaks_false]
  · rw [joins.others, plain_joinBreaks]

theorem IsLines.joins_self (lines : IsLines t) : Joins t t := by
  refine ⟨rfl, List.forall₂_same.2 fun gap mem => ?_⟩
  have noReturn : '\r' ∉ gap := fun inside =>
    lines.noReturn ((Text.infix_of_mem_pieces mem).subset inside)
  simp [noReturn]

theorem tidy_of_text? {v : Json} (text : v.text? = some s) :
    s ≠ "" ∧ Text.Unpadded s.toList := by
  constructor
  · cases v with
    | str u =>
      rw [text?, nonempty?, Option.ite_none_left_eq_some, Option.some_inj] at text
      obtain ⟨filled, rfl⟩ := text
      simpa using filled
    | int n =>
      cases text
      simpa using intText_ne_nil n
    | float x =>
      rw [text?] at text
      split at text
      next n _ =>
        cases text
        simpa using intText_ne_nil n
      next =>
        cases text
        have some : x.text ≠ [] := x.mem_text.elim List.ne_nil_of_mem List.ne_nil_of_mem
        simpa using some
    | null | bool | arr | obj => cases text
  · have unpadded := unpadded_textOrEmpty v
    rwa [textOrEmpty, text, Option.getD_some] at unpadded

theorem lines?_eq_some_iff {v : Json} :
    v.lines? = some t ↔ IsLines t ∧ ∃ s, v.text? = some s ∧ Joins s t := by
  rw [lines?, Option.map_eq_some_iff]
  constructor
  · rintro ⟨s, text, rfl⟩
    obtain ⟨filled, unpadded⟩ := tidy_of_text? text
    exact ⟨isLines_joinBreaks filled unpadded, s, text, joins_joinBreaks s⟩
  · rintro ⟨lines, s, text, joins⟩
    exact ⟨s, text, (joins.eq_joinBreaks lines).symm⟩

theorem IsLines.lines?_str (lines : IsLines t) : (str t).lines? = some t := by
  refine lines?_eq_some_iff.2 ⟨lines, t, ?_, lines.joins_self⟩
  rw [text?_str lines.unpadded]
  exact if_neg (by simpa using lines.filled)

/-- Reading lines is a projection that changes line breaks only: it gives the one text of single,
unpadded lines that joins the line breaks of the trimmed text of the value, and that text is read
as itself. -/
theorem lines_change_breaks_only (v : Json) (t : String) :
    (v.lines? = some t ↔ IsLines t ∧ ∃ s, v.text? = some s ∧ Joins s t) ∧
      (v.lines? = some t → (str t).lines? = some t) := by
  refine ⟨lines?_eq_some_iff, fun read => ?_⟩
  obtain ⟨lines, -⟩ := lines?_eq_some_iff.1 read
  exact lines.lines?_str

theorem lines_change_breaks_between_two :
    let v := str " line1 \r\n\r\nline2\n"
    let t := "line1 \nline2"
    v.lines? = some t ∧ IsLines t ∧ (∃ s, v.text? = some s ∧ Joins s t) ∧
      (str t).lines? = some t := by
  intro v t
  have read : v.lines? = some t := by decide
  obtain ⟨whole, again⟩ := lines_change_breaks_only v t
  obtain ⟨lines, joined⟩ := whole.1 read
  exact ⟨read, lines, joined, again read⟩

end RefData.Json
