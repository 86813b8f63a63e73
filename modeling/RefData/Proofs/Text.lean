import Mathlib.Data.List.Infix
import Mathlib.Data.List.TakeWhile
import RefData.Number.Notation
import RefData.Text.Blank
set_option autoImplicit false

namespace RefData.Text

theorem occursIn_iff {part whole : List Char} : occursIn part whole = true ↔ part <:+: whole := by
  induction whole with
  | nil => simp [occursIn]
  | cons c rest ih => simp [occursIn, ih, List.infix_cons_iff]

variable {p : Char → Bool} {c : Char}

theorem takeWhile_append_cons (other : p c = false) (xs ys : List Char) :
    (xs ++ c :: ys).takeWhile p = xs.takeWhile p := by
  induction xs with
  | nil => simp [other]
  | cons x xs ih => by_cases kind : p x <;> simp [kind, ih]

theorem dropWhile_append_cons (other : p c = false) (xs ys : List Char) :
    (xs ++ c :: ys).dropWhile p = xs.dropWhile p ++ c :: ys := by
  rw [List.dropWhile_append]
  split
  next none => simp [List.isEmpty_iff.1 none, other]
  next => rfl

theorem drop_length_takeWhile (p : Char → Bool) (xs : List Char) :
    xs.drop (xs.takeWhile p).length = xs.dropWhile p := by
  have whole := List.takeWhile_append_dropWhile (p := p) (l := xs)
  nth_rewrite 2 [← whole]
  exact List.drop_left

theorem takeWhile_append_of_head {ys : List Char} (other : ∀ c, ys.head? = some c → p c = false)
    (xs : List Char) : (xs ++ ys).takeWhile p = xs.takeWhile p := by
  cases ys with
  | nil => rw [List.append_nil]
  | cons c ys => exact takeWhile_append_cons (other c rfl) xs ys

theorem dropWhile_append_of_head {ys : List Char} (other : ∀ c, ys.head? = some c → p c = false)
    (xs : List Char) : (xs ++ ys).dropWhile p = xs.dropWhile p ++ ys := by
  cases ys with
  | nil => simp only [List.append_nil]
  | cons c ys => exact dropWhile_append_cons (other c rfl) xs ys

theorem takeWhile_append_of_stop {xs : List Char} (stop : xs.dropWhile p ≠ []) (ys : List Char) :
    (xs ++ ys).takeWhile p = xs.takeWhile p := by
  induction xs with
  | nil => simp at stop
  | cons x xs ih =>
    by_cases kind : p x
    · simpa [kind] using ih (by simpa [kind] using stop)
    · simp [kind]

theorem dropWhile_append_of_stop {xs : List Char} (stop : xs.dropWhile p ≠ []) (ys : List Char) :
    (xs ++ ys).dropWhile p = xs.dropWhile p ++ ys := by
  rw [List.dropWhile_append, if_neg (by simpa [List.isEmpty_iff] using stop)]

theorem getLast?_dropWhile {xs : List Char} (stop : xs.dropWhile p ≠ []) :
    (xs.dropWhile p).getLast? = xs.getLast? := by
  nth_rewrite 2 [← List.takeWhile_append_dropWhile (p := p) (l := xs)]
  rw [List.getLast?_append_of_ne_nil _ stop]

theorem dropEndWhile_append_cons (other : p c = false) (xs ys : List Char) :
    dropEndWhile p (xs ++ c :: ys) = xs ++ c :: dropEndWhile p ys := by
  simp only [dropEndWhile, List.reverse_append, List.reverse_cons, List.append_assoc,
    List.singleton_append, dropWhile_append_cons other, List.reverse_reverse]

theorem dropEndWhile_eq_self {xs : List Char} (last : ∀ c, xs.getLast? = some c → p c = false) :
    dropEndWhile p xs = xs := by
  rcases List.eq_nil_or_concat xs with rfl | ⟨front, c, rfl⟩
  · rfl
  · have kept := dropEndWhile_append_cons (last c (by simp)) front []
    simpa [dropEndWhile] using kept

theorem eq_dropEndWhile_append (p : Char → Bool) (xs : List Char) :
    ∃ behind, (∀ c ∈ behind, p c = true) ∧ xs = dropEndWhile p xs ++ behind := by
  refine ⟨(xs.reverse.takeWhile p).reverse, fun c mem => ?_, ?_⟩
  · exact List.mem_takeWhile_imp (List.mem_reverse.1 mem)
  · rw [dropEndWhile, ← List.reverse_append, List.takeWhile_append_dropWhile, List.reverse_reverse]

theorem dropEndWhile_isPrefix (p : Char → Bool) (xs : List Char) : dropEndWhile p xs <+: xs := by
  obtain ⟨behind, -, whole⟩ := eq_dropEndWhile_append p xs
  exact ⟨behind, whole.symm⟩

theorem not_getLast?_dropEndWhile {xs : List Char}
    (last : (dropEndWhile p xs).getLast? = some c) : p c = false := by
  rw [dropEndWhile, List.getLast?_reverse] at last
  have stops := List.head?_dropWhile_not p xs.reverse
  rw [last] at stops
  simpa using stops

theorem mem_of_mem_trimChars {xs : List Char} (mem : c ∈ trimChars xs) : c ∈ xs :=
  (List.dropWhile_sublist _).subset ((dropEndWhile_isPrefix _ _).subset mem)

theorem trimChars_eq_nil_iff {xs : List Char} : trimChars xs = [] ↔ ∀ c ∈ xs, isBlank c = true := by
  rw [trimChars, dropEndWhile, List.reverse_eq_nil_iff, List.dropWhile_eq_nil_iff]
  constructor
  · intro blank
    have none : xs.dropWhile isBlank = [] := by
      cases first : xs.dropWhile isBlank with
      | nil => rfl
      | cons c rest =>
        have stops := List.head_dropWhile_not isBlank (l := xs) (by simp [first])
        rw [blank _ (by simp)] at stops
        cases stops
    exact List.dropWhile_eq_nil_iff.1 none
  · intro blank c mem
    exact blank c ((List.dropWhile_sublist _).subset (List.mem_reverse.1 mem))

theorem not_isBlank_of_isDigit {c : Char} (digit : isDigit c = true) : isBlank c = false := by
  simp only [isDigit, Bool.and_eq_true, decide_eq_true_eq, Char.le_def, UInt32.le_iff_toNat_le]
    at digit
  change 48 ≤ c.toNat ∧ c.toNat ≤ 57 at digit
  simp [isBlank, blankRanges, inRanges]
  omega

def Unpadded (cs : List Char) : Prop :=
  (∀ c ∈ cs.head?, isBlank c = false) ∧ ∀ c ∈ cs.getLast?, isBlank c = false

instance (cs : List Char) : Decidable (Unpadded cs) :=
  decidable_of_iff (cs.head?.all (!isBlank ·) ∧ cs.getLast?.all (!isBlank ·))
    (by simp [Unpadded, Option.all_eq_true])

theorem unpadded_of_forall {cs : List Char} (none : ∀ c ∈ cs, isBlank c = false) : Unpadded cs :=
  ⟨fun c first => none c (List.mem_of_mem_head? first),
    fun c last => none c (List.mem_of_mem_getLast? last)⟩

theorem Unpadded.append {xs ys : List Char} (before : Unpadded xs) (behind : Unpadded ys)
    (some : xs ≠ []) (more : ys ≠ []) : Unpadded (xs ++ ys) := by
  constructor
  · rw [List.head?_append_of_ne_nil _ some]
    exact before.1
  · rw [List.getLast?_append_of_ne_nil _ more]
    exact behind.2

theorem dropEndWhile_append_of_forall {blanks : List Char} (all : ∀ c ∈ blanks, p c = true)
    (xs : List Char) : dropEndWhile p (xs ++ blanks) = dropEndWhile p xs := by
  rw [dropEndWhile, List.reverse_append, List.dropWhile_append_of_pos]
  · rfl
  · simpa using all

theorem trimChars_of_unpadded {cs : List Char} (unpadded : Unpadded cs) : trimChars cs = cs := by
  have front : cs.dropWhile isBlank = cs := by
    cases cs with
    | nil => rfl
    | cons c rest => exact List.dropWhile_cons_of_neg (by simp [unpadded.1 c rfl])
  rw [trimChars, front]
  exact dropEndWhile_eq_self unpadded.2

theorem trimChars_append_blanks {cs blanks : List Char} {last : Char}
    (ends : cs.getLast? = some last) (solid : isBlank last = false)
    (all : ∀ c ∈ blanks, isBlank c = true) :
    trimChars (cs ++ blanks) = cs.dropWhile isBlank := by
  have stop : cs.dropWhile isBlank ≠ [] := by
    intro none
    have blank := List.dropWhile_eq_nil_iff.1 none last (List.mem_of_getLast? ends)
    rw [solid] at blank
    cases blank
  rw [trimChars, dropWhile_append_of_stop stop, dropEndWhile_append_of_forall all]
  apply dropEndWhile_eq_self
  intro c isLast
  rw [getLast?_dropWhile stop, ends] at isLast
  exact Option.some.inj isLast ▸ solid

theorem trimChars_padded {before cs behind : List Char} (blankBefore : ∀ c ∈ before, isBlank c)
    (unpadded : Unpadded cs) (blankBehind : ∀ c ∈ behind, isBlank c) :
    trimChars (before ++ cs ++ behind) = cs := by
  rw [trimChars, List.append_assoc, List.dropWhile_append_of_pos blankBefore]
  cases cs with
  | nil =>
    rw [List.nil_append, List.dropWhile_eq_nil_iff.2 blankBehind]
    rfl
  | cons c rest =>
    have front : (c :: rest ++ behind).dropWhile isBlank = c :: rest ++ behind :=
      List.dropWhile_cons_of_neg (by simp [unpadded.1 c rfl])
    rw [front, dropEndWhile_append_of_forall blankBehind]
    exact dropEndWhile_eq_self unpadded.2

theorem eq_padded_trimChars (cs : List Char) : ∃ before behind,
    (∀ c ∈ before, isBlank c) ∧ (∀ c ∈ behind, isBlank c) ∧
      cs = before ++ trimChars cs ++ behind := by
  obtain ⟨behind, blank, whole⟩ := eq_dropEndWhile_append isBlank (cs.dropWhile isBlank)
  refine ⟨cs.takeWhile isBlank, behind, fun c => List.mem_takeWhile_imp, blank, ?_⟩
  rw [trimChars, List.append_assoc, ← whole, List.takeWhile_append_dropWhile]

theorem unpadded_trimChars (cs : List Char) : Unpadded (trimChars cs) := by
  refine ⟨?_, fun c => not_getLast?_dropEndWhile⟩
  intro c first
  obtain ⟨behind, whole⟩ := dropEndWhile_isPrefix isBlank (cs.dropWhile isBlank)
  have stops := List.head?_dropWhile_not isBlank cs
  rw [← whole, List.head?_append] at stops
  rw [trimChars, Option.mem_def] at first
  rw [first] at stops
  exact stops

theorem trimChars_infix (cs : List Char) : trimChars cs <:+: cs := by
  obtain ⟨before, behind, -, -, whole⟩ := eq_padded_trimChars cs
  exact ⟨before, behind, whole.symm⟩

theorem pieces_ne_nil (p : Char → Bool) (cs : List Char) : pieces p cs ≠ [] := by
  cases cs with
  | nil => simp [pieces]
  | cons c rest =>
    simp only [pieces]
    split
    · simp
    · split <;> simp

theorem pieces_append_cons (divides : p c = true) (xs ys : List Char) :
    pieces p (xs ++ c :: ys) = pieces p xs ++ pieces p ys := by
  induction xs with
  | nil => simp [pieces, divides]
  | cons x xs ih =>
    by_cases kind : p x
    · simp [pieces, kind, ih]
    · cases first : pieces p xs with
      | nil => exact absurd first (pieces_ne_nil p xs)
      | cons w ws => simp [pieces, kind, ih, first]

theorem pieces_append_of_none {xs ys w : List Char} {ws : List (List Char)}
    (none : ∀ c ∈ xs, p c = false) (behind : pieces p ys = w :: ws) :
    pieces p (xs ++ ys) = (xs ++ w) :: ws := by
  induction xs with
  | nil => exact behind
  | cons x xs ih =>
    have later := ih fun d mem => none d (List.mem_cons_of_mem x mem)
    simp [pieces, none x List.mem_cons_self, later]

theorem pieces_of_none {cs : List Char} (none : ∀ c ∈ cs, p c = false) : pieces p cs = [cs] := by
  have alone : pieces p (cs ++ []) = [cs ++ []] := pieces_append_of_none none rfl
  rwa [List.append_nil] at alone

theorem not_divides_of_mem_pieces {cs piece : List Char} (mem : piece ∈ pieces p cs)
    (inside : c ∈ piece) : p c = false ∧ c ∈ cs := by
  induction cs generalizing piece with
  | nil =>
    simp only [pieces, List.mem_singleton] at mem
    simp [mem] at inside
  | cons d rest ih =>
    by_cases kind : p d
    · simp only [pieces, kind, if_true, List.mem_cons] at mem
      rcases mem with rfl | mem
      · simp at inside
      · exact (ih mem inside).imp_right (List.mem_cons_of_mem d)
    · cases first : pieces p rest with
      | nil => exact absurd first (pieces_ne_nil p rest)
      | cons w ws =>
        have mem : piece = d :: w ∨ piece ∈ ws := by simpa [pieces, kind, first] using mem
        rcases mem with rfl | mem
        · rcases List.mem_cons.1 inside with rfl | inside
          · exact ⟨by simpa using kind, List.mem_cons_self⟩
          · exact (ih (by simp [first]) inside).imp_right (List.mem_cons_of_mem d)
        · exact (ih (by simp [first, mem]) inside).imp_right (List.mem_cons_of_mem d)

def weave : List (List Char) → List Char → List Char
  | piece :: later, c :: rest => piece ++ c :: weave later rest
  | parts, _ => parts.flatten

theorem weave_cons_cons (c : Char) (piece : List Char) (parts : List (List Char))
    (dividers : List Char) :
    weave ((c :: piece) :: parts) dividers = c :: weave (piece :: parts) dividers := by
  cases dividers <;> rfl

theorem weave_pieces (p : Char → Bool) (cs : List Char) :
    weave (pieces p cs) (cs.filter p) = cs := by
  induction cs with
  | nil => rfl
  | cons c rest ih =>
    by_cases kind : p c
    · simp [pieces, kind, weave, ih]
    · cases parts : pieces p rest with
      | nil => exact absurd parts (pieces_ne_nil p rest)
      | cons w ws =>
        rw [parts] at ih
        simp [pieces, kind, parts, weave_cons_cons, ih]

theorem eq_of_pieces {xs ys : List Char} (parts : pieces p xs = pieces p ys)
    (dividers : xs.filter p = ys.filter p) : xs = ys := by
  rw [← weave_pieces p xs, parts, dividers, weave_pieces]

theorem infix_weave {piece : List Char} {parts : List (List Char)} (mem : piece ∈ parts)
    (dividers : List Char) : piece <:+: weave parts dividers := by
  induction parts generalizing dividers with
  | nil => cases mem
  | cons first later ih =>
    cases dividers with
    | nil => exact List.infix_of_mem_flatten mem
    | cons c rest =>
      rcases List.mem_cons.1 mem with rfl | mem
      · exact (List.prefix_append _ _).isInfix
      · have behind : weave later rest <:+ first ++ c :: weave later rest :=
          (List.suffix_cons c _).trans (List.suffix_append first _)
        exact (ih mem rest).trans behind.isInfix

theorem infix_of_mem_pieces {cs piece : List Char} (mem : piece ∈ pieces p cs) : piece <:+: cs := by
  have inside := infix_weave mem (cs.filter p)
  rwa [weave_pieces] at inside

theorem exists_piece_of_infix {run cs : List Char} (inside : run <:+: cs)
    (none : ∀ c ∈ run, p c = false) : ∃ piece ∈ pieces p cs, run <:+: piece := by
  obtain ⟨before, behind, rfl⟩ := inside
  rw [List.append_assoc]
  induction before with
  | nil =>
    obtain ⟨w, ws, parts⟩ := List.exists_cons_of_ne_nil (pieces_ne_nil p behind)
    rw [List.nil_append, pieces_append_of_none none parts]
    exact ⟨run ++ w, List.mem_cons_self, (List.prefix_append run w).isInfix⟩
  | cons c before ih =>
    obtain ⟨piece, mem, inside⟩ := ih
    by_cases kind : p c
    · exact ⟨piece, by simp [pieces, kind, mem], inside⟩
    · cases parts : pieces p (before ++ (run ++ behind)) with
      | nil => exact absurd parts (pieces_ne_nil p _)
      | cons w ws =>
        rw [parts] at mem
        rcases List.mem_cons.1 mem with rfl | mem
        · exact ⟨c :: piece, by simp [pieces, kind, parts], List.infix_cons inside⟩
        · exact ⟨piece, by simp [pieces, kind, parts, mem], inside⟩

theorem pieces_joinWith {space part : List Char} {parts : List (List Char)}
    (divides : p c = true) (blank : ∀ d ∈ space, p d = false)
    (none : ∀ part' ∈ part :: parts, ∀ d ∈ part', p d = false) :
    pieces p (joinWith (c :: space) (part :: parts)) = part :: parts.map (space ++ ·) := by
  induction parts generalizing part with
  | nil => exact pieces_of_none (none part List.mem_cons_self)
  | cons next parts ih =>
    have later := ih fun part' mem => none part' (List.mem_cons_of_mem part mem)
    have spaced := pieces_append_of_none blank later
    have first : pieces p part = [part] := pieces_of_none (none part List.mem_cons_self)
    simp only [joinWith, List.append_assoc, List.cons_append]
    rw [pieces_append_cons divides, spaced, first]
    rfl

theorem mem_joinWith {sep : List Char} {parts : List (List Char)} (mem : c ∈ joinWith sep parts) :
    c ∈ sep ∨ ∃ part ∈ parts, c ∈ part := by
  induction parts with
  | nil => simp [joinWith] at mem
  | cons part rest ih =>
    cases rest with
    | nil => exact .inr ⟨part, List.mem_cons_self, mem⟩
    | cons next rest =>
      simp only [joinWith, List.mem_append] at mem
      rcases mem with (inPart | inSep) | later
      · exact .inr ⟨part, List.mem_cons_self, inPart⟩
      · exact .inl inSep
      · exact (ih later).imp_right fun ⟨part', mem', inside⟩ =>
          ⟨part', List.mem_cons_of_mem part mem', inside⟩

theorem splitLast?_eq {sep : Char} {cs before behind : List Char}
    (split : splitLast? sep cs = some (before, behind)) : cs = before ++ sep :: behind := by
  have whole := List.takeWhile_append_dropWhile (p := (· != sep)) (l := cs.reverse)
  simp only [splitLast?] at split
  split at split
  · cases split
  next d front dropped =>
    cases split
    have isSep : d = sep := by
      have stops := List.head_dropWhile_not (· != sep) (l := cs.reverse) (by simp [dropped])
      simpa [dropped] using stops
    rw [dropped, isSep] at whole
    simpa using (congrArg List.reverse whole).symm

theorem splitLast?_eq_none_iff {sep : Char} {cs : List Char} :
    splitLast? sep cs = none ↔ sep ∉ cs := by
  have passed : cs.reverse.dropWhile (· != sep) = [] ↔ sep ∉ cs := by
    rw [List.dropWhile_eq_nil_iff]
    constructor
    · intro other mem
      simpa using other sep (List.mem_reverse.2 mem)
    · intro none c mem
      rw [bne_iff_ne]
      rintro rfl
      exact none (List.mem_reverse.1 mem)
  rw [← passed, splitLast?]
  cases cs.reverse.dropWhile (· != sep) <;> simp

theorem splitLast?_eq_some_iff {sep : Char} {cs before behind : List Char} :
    splitLast? sep cs = some (before, behind) ↔ cs = before ++ sep :: behind ∧ sep ∉ behind := by
  have stop : (sep != sep) = false := by simp
  constructor
  · intro split
    refine ⟨splitLast?_eq split, ?_⟩
    simp only [splitLast?] at split
    split at split
    · cases split
    next =>
      cases split
      intro mem
      simpa using List.mem_takeWhile_imp (List.mem_reverse.1 mem)
  · rintro ⟨rfl, none⟩
    have other : ∀ c ∈ behind.reverse, (c != sep) = true := by
      intro c mem
      rw [bne_iff_ne]
      rintro rfl
      exact none (List.mem_reverse.1 mem)
    have taken := takeWhile_append_cons (p := (· != sep)) stop behind.reverse before.reverse
    have dropped := dropWhile_append_cons (p := (· != sep)) stop behind.reverse before.reverse
    rw [List.takeWhile_eq_self_iff.2 other] at taken
    rw [List.dropWhile_eq_nil_iff.2 other] at dropped
    simp [splitLast?, taken, dropped]

theorem splitFirst?_eq_none_iff {sep cs : List Char} (filled : sep ≠ []) :
    splitFirst? sep cs = none ↔ ¬ sep <:+: cs := by
  induction cs with
  | nil => simp [splitFirst?, filled]
  | cons c rest ih =>
    rw [splitFirst?, List.infix_cons_iff, ← List.isPrefixOf_iff_prefix]
    by_cases here : sep.isPrefixOf (c :: rest) <;> simp [here, ih]

theorem splitFirst?_eq_some_iff {sep cs before behind : List Char} (filled : sep ≠ []) :
    splitFirst? sep cs = some (before, behind) ↔
      cs = before ++ sep ++ behind ∧ ¬ sep <:+: before ++ sep.dropLast := by
  have long : sep.dropLast.length + 1 = sep.length := by
    have := List.length_pos_iff.2 filled
    rw [List.length_dropLast]
    omega
  have covered (before : List Char) : before ++ sep.dropLast <+: before ++ sep ++ behind := by
    rw [List.append_assoc]
    refine (List.prefix_append_right_inj before).2 ?_
    exact (List.dropLast_prefix sep).trans (List.prefix_append sep behind)
  induction cs generalizing before with
  | nil => simp [splitFirst?, filled]
  | cons c rest ih =>
    by_cases here : sep <+: c :: rest
    · have found : splitFirst? sep (c :: rest) = some ([], (c :: rest).drop sep.length) := by
        rw [splitFirst?, if_pos (List.isPrefixOf_iff_prefix.2 here)]
      obtain ⟨tail, whole⟩ := here
      rw [found, ← whole, List.drop_left]
      constructor
      · intro same
        cases same
        refine ⟨rfl, fun inside => ?_⟩
        have := inside.length_le
        simp only [List.nil_append] at this
        omega
      · rintro ⟨same, first⟩
        -- Any other place would leave the occurrence at the start before it.
        cases before with
        | nil => simpa using same
        | cons d before =>
          have start : sep <+: d :: before ++ sep.dropLast := by
            refine List.prefix_of_prefix_length_le ⟨tail, same⟩ (covered _) ?_
            simp only [List.length_append, List.length_cons]
            omega
          exact absurd start.isInfix first
    · have passed : splitFirst? sep (c :: rest) =
          (splitFirst? sep rest).map fun parts => (c :: parts.1, parts.2) := by
        rw [splitFirst?, if_neg (by simpa using here)]
      rw [passed]
      cases before with
      | nil =>
        have other : c :: rest ≠ sep ++ behind := fun same => here ⟨behind, same.symm⟩
        simp [other]
      | cons d before =>
        have later (same : c :: rest = d :: before ++ sep ++ behind) :
            ¬ sep <+: d :: before ++ sep.dropLast := by
          intro start
          rw [same] at here
          exact here (start.trans (covered _))
        have step := @ih before
        simp only [List.cons_append, List.infix_cons_iff, List.cons.injEq, not_or,
          Option.map_eq_some_iff, Prod.mk.injEq, Prod.exists] at later ⊢
        grind

end RefData.Text
