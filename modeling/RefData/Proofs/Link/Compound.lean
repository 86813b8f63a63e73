import RefData.Link.Compound
import RefData.Proofs.Dict
import RefData.Proofs.Text
set_option autoImplicit false

namespace RefData

namespace CompoundRelation

def text (r : CompoundRelation) : String :=
  r.parameter ++ ", " ++ r.unit.getD "" ++ "<=>" ++ r.component

structure Printable (r : CompoundRelation) : Prop where
  parameter : r.parameter ≠ "" ∧ Text.Unpadded r.parameter.toList ∧
    ¬ separator <:+: r.parameter.toList
  unit : ∀ u ∈ r.unit, u ≠ "" ∧ Text.Unpadded u.toList ∧ ',' ∉ u.toList ∧ ¬ separator <:+: u.toList
  component : r.component ≠ "" ∧ Text.Unpadded r.component.toList

inductive Divided : List Char → List Char → List Char → Prop
  | unit {name unit : List Char} (last : ',' ∉ unit) : Divided (name ++ ',' :: unit) name unit
  | alone {name : List Char} (none : ',' ∉ name) : Divided name name []

inductive Parts : List Char → List Char → List Char → List Char → Prop
  | intro {left name unit component : List Char} (first : ¬ separator <:+: left)
      (divided : Divided left name unit) :
      Parts (left ++ separator ++ component) name unit component

theorem exists_divided (left : List Char) : ∃ name unit, Divided left name unit := by
  cases split : Text.splitLast? ',' left with
  | none => exact ⟨left, [], .alone (Text.splitLast?_eq_none_iff.1 split)⟩
  | some parts =>
    obtain ⟨whole, last⟩ := Text.splitLast?_eq_some_iff.1 split
    exact ⟨parts.1, parts.2, whole ▸ .unit last⟩

theorem splitUnit_of_divided {left name unit : List Char} (divided : Divided left name unit) :
    splitUnit left = (Text.trimChars name, Text.trimChars unit) := by
  cases divided with
  | unit last => rw [splitUnit, Text.splitLast?_eq_some_iff.2 ⟨rfl, last⟩]
  | alone none =>
    rw [splitUnit, Text.splitLast?_eq_none_iff.2 none]
    rfl

theorem Divided.infixes {left name unit : List Char} (divided : Divided left name unit) :
    name <:+: left ∧ unit <:+: left ∧ ',' ∉ unit := by
  cases divided with
  | @unit name unit last =>
    refine ⟨(List.prefix_append _ _).isInfix, List.IsSuffix.isInfix ?_, last⟩
    exact (List.suffix_cons ',' unit).trans (List.suffix_append name _)
  | alone none => exact ⟨List.infix_rfl, List.nil_infix, List.not_mem_nil⟩

-- No separator can begin before another one and end inside it.
theorem splitFirst?_separator {cs left right : List Char} :
    Text.splitFirst? separator cs = some (left, right) ↔
      cs = left ++ separator ++ right ∧ ¬ separator <:+: left := by
  rw [Text.splitFirst?_eq_some_iff (by decide)]
  have alone : separator <:+: left ++ separator.dropLast ↔ separator <:+: left := by
    rw [List.infix_append_iff_ne_nil]
    refine ⟨?_, Or.inl⟩
    rintro (inside | inside | ⟨before, behind, begun, ended, whole, -, start⟩)
    · exact inside
    · exact absurd inside (by decide)
    · obtain ⟨c, before, rfl⟩ := List.exists_cons_of_ne_nil begun
      have cut : ['=', '>'] = before ++ behind := (List.cons.inj whole).2
      rcases List.prefix_cons_iff.1 start with none | ⟨rest, rfl, -⟩
      · exact absurd none ended
      · have back : '<' ∈ ['=', '>'] := cut ▸ by simp
        exact absurd back (by decide)
  rw [alone]

theorem exists_parts {cs : List Char} (inside : separator <:+: cs) :
    ∃ name unit component, Parts cs name unit component := by
  cases split : Text.splitFirst? separator cs with
  | none => exact absurd inside ((Text.splitFirst?_eq_none_iff (by decide)).1 split)
  | some parts =>
    obtain ⟨rfl, first⟩ := splitFirst?_separator.1 split
    obtain ⟨name, unit, divided⟩ := exists_divided parts.1
    exact ⟨name, unit, parts.2, .intro first divided⟩

theorem parse?_of_no_separator {text : String} (none : ¬ separator <:+: text.toList) :
    parse? text = Option.none := by
  rw [parse?, (Text.splitFirst?_eq_none_iff (by decide)).2 none]
  rfl

theorem parse?_of_parts {text : String} {name unit component : List Char}
    (parts : Parts text.toList name unit component) :
    parse? text =
      if Text.trimChars name = [] ∨ Text.trimChars component = [] then none
      else some {
        parameter := String.ofList (Text.trimChars name)
        unit := if Text.trimChars unit = [] then none else some (String.ofList (Text.trimChars unit))
        component := String.ofList (Text.trimChars component) } := by
  generalize cs : text.toList = chars at parts
  obtain ⟨first, divided⟩ := parts
  rw [parse?, cs, splitFirst?_separator.2 ⟨rfl, first⟩]
  simp [splitUnit_of_divided divided]

theorem not_infix_append_cons {part before behind : List Char} {c : Char} (apart : c ∉ part)
    (notBefore : ¬ part <:+: before) (notBehind : ¬ part <:+: behind) :
    ¬ part <:+: before ++ c :: behind := by
  have filled : part ≠ [] := by
    rintro rfl
    exact notBefore List.nil_infix
  have notHere (l : List Char) (inside : l ⊆ part) (start : l <+: c :: behind) : l = [] := by
    rcases List.prefix_cons_iff.1 start with none | ⟨rest, rfl, -⟩
    · exact none
    · exact absurd (inside List.mem_cons_self) apart
  rw [List.infix_append_iff_ne_nil, List.infix_cons_iff]
  rintro (inside | (start | inside) | ⟨first, second, -, begun, rfl, -, start⟩)
  · exact notBefore inside
  · exact filled (notHere part (List.Subset.refl _) start)
  · exact notBehind inside
  · exact begun (notHere second (List.subset_append_right first second) start)

theorem parts_text {r : CompoundRelation} (printable : Printable r) :
    Parts r.text.toList r.parameter.toList (' ' :: (r.unit.getD "").toList)
      r.component.toList := by
  have unit : ',' ∉ (r.unit.getD "").toList ∧ ¬ separator <:+: (r.unit.getD "").toList := by
    cases given : r.unit with
    | none => decide
    | some u => exact (printable.unit u given).2.2
  have spaced : ¬ separator <:+: [] ++ ' ' :: (r.unit.getD "").toList :=
    not_infix_append_cons (by decide) (by decide) unit.2
  have first : ¬ separator <:+: r.parameter.toList ++ ',' :: ' ' :: (r.unit.getD "").toList :=
    not_infix_append_cons (by decide) printable.parameter.2.2 spaced
  have whole : r.text.toList = r.parameter.toList ++ ',' :: ' ' :: (r.unit.getD "").toList ++
      separator ++ r.component.toList := by
    simp [text, separator]
  rw [whole]
  exact .intro first (.unit (by simpa using unit.1))

theorem parse?_text {r : CompoundRelation} (printable : Printable r) : parse? r.text = some r := by
  have unpadded : Text.Unpadded (r.unit.getD "").toList := by
    cases given : r.unit with
    | none => decide
    | some u => exact (printable.unit u given).2.1
  have unit : Text.trimChars ([' '] ++ (r.unit.getD "").toList ++ []) = (r.unit.getD "").toList :=
    Text.trimChars_padded (List.forall_mem_singleton.2 (by decide)) unpadded (by simp)
  rw [List.append_nil, List.singleton_append] at unit
  have named : ¬ (r.parameter.toList = [] ∨ r.component.toList = []) := by
    simp [printable.parameter.1, printable.component.1]
  rw [parse?_of_parts (parts_text printable), unit,
    Text.trimChars_of_unpadded printable.parameter.2.1,
    Text.trimChars_of_unpadded printable.component.2, if_neg named]
  obtain ⟨parameter, given, component⟩ := r
  cases given with
  | none => simp
  | some u => simp [(printable.unit u rfl).1]

theorem parse?_eq_none_iff {text : String} :
    parse? text = none ↔ ¬ separator <:+: text.toList ∨
      ∃ name unit component, Parts text.toList name unit component ∧
        ((∀ c ∈ name, Text.isBlank c = true) ∨ ∀ c ∈ component, Text.isBlank c = true) := by
  constructor
  · intro refused
    by_cases inside : separator <:+: text.toList
    · obtain ⟨name, unit, component, parts⟩ := exists_parts inside
      rw [parse?_of_parts parts, ite_eq_left_iff] at refused
      refine .inr ⟨name, unit, component, parts, ?_⟩
      simp only [← Text.trimChars_eq_nil_iff]
      by_contra named
      cases refused named
    · exact .inl inside
  · rintro (none | ⟨name, unit, component, parts, blank⟩)
    · exact parse?_of_no_separator none
    · simp only [← Text.trimChars_eq_nil_iff] at blank
      rw [parse?_of_parts parts, if_pos blank]

theorem printable_of_parse? {text : String} {r : CompoundRelation} (read : parse? text = some r) :
    Printable r := by
  have inside : separator <:+: text.toList := by
    by_contra none
    rw [parse?_of_no_separator none] at read
    cases read
  obtain ⟨name, unit, component, parts⟩ := exists_parts inside
  have found := parse?_of_parts parts
  generalize text.toList = cs at parts
  obtain ⟨first, divided⟩ := parts
  obtain ⟨inName, inUnit, last⟩ := divided.infixes
  -- Trimming leaves a part of what was divided, so it brings in no comma and no separator.
  have kept {cs : List Char} (inLeft : cs <:+: _) : ¬ separator <:+: Text.trimChars cs :=
    fun inside => first (inside.trans ((Text.trimChars_infix cs).trans inLeft))
  rw [read] at found
  split at found
  · cases found
  next named =>
    cases found
    rw [not_or] at named
    refine ⟨⟨by simpa using named.1, ?_, ?_⟩, ?_, ⟨by simpa using named.2, ?_⟩⟩
    · simpa using Text.unpadded_trimChars name
    · simpa using kept inName
    · intro u given
      split at given
      · cases given
      next filled =>
        cases given
        refine ⟨by simpa using filled, ?_, ?_, ?_⟩
        · simpa using Text.unpadded_trimChars unit
        · simpa using fun mem => last (Text.mem_of_mem_trimChars mem)
        · simpa using kept inUnit
    · simpa using Text.unpadded_trimChars component

/-- Writing a relation and reading it are inverse to each other on the relations that can be read
from any text, and a text without one lacks a separator or a name. -/
theorem relation_text_reads_back :
    (∀ r, Printable r → parse? r.text = some r) ∧
    (∀ text r, parse? text = some r → Printable r ∧ parse? r.text = some r) ∧
    ∀ text, parse? text = none ↔ ¬ separator <:+: text.toList ∨
      ∃ name unit component, Parts text.toList name unit component ∧
        ((∀ c ∈ name, Text.isBlank c = true) ∨ ∀ c ∈ component, Text.isBlank c = true) := by
  refine ⟨fun r => parse?_text, fun text r read => ?_, fun text => parse?_eq_none_iff⟩
  have printable := printable_of_parse? read
  exact ⟨printable, parse?_text printable⟩

theorem relation_text_reads_back_load :
    let r : CompoundRelation := ⟨"Ток, нагрузка", some "<=", "Двигатель<=>насос"⟩
    parse? " Ток, нагрузка , <=<=>\tДвигатель<=>насос" = some r ∧ Printable r ∧
      r.text = "Ток, нагрузка, <=<=>Двигатель<=>насос" ∧ parse? r.text = some r := by
  have loose : parse? " Ток, нагрузка , <=<=>\tДвигатель<=>насос" =
      some ⟨"Ток, нагрузка", some "<=", "Двигатель<=>насос"⟩ := by decide +kernel
  have printable := (relation_text_reads_back.2.1 _ _ loose).1
  exact ⟨loose, printable, by decide +kernel, relation_text_reads_back.1 _ printable⟩

end CompoundRelation

namespace CompoundIndex

theorem byNameAndUnit_insert (index : CompoundIndex) (r : CompoundRelation) (key : String) :
    (index.insert r).byNameAndUnit.get? key =
      if nameAndUnit r.parameter r.unit = key then some r.component
      else index.byNameAndUnit.get? key := by
  simp [insert, eq_comm (a := key)]

theorem byName_insert (index : CompoundIndex) (r : CompoundRelation) (key : String) :
    (index.insert r).byName.get? key = (index.byName.get? key).or
      (if Text.fold r.parameter = key then some r.component else none) := by
  by_cases known : index.byName.contains (Text.fold r.parameter)
  · by_cases here : Text.fold r.parameter = key
    · have found : (index.byName.get? key).isSome := here ▸ known
      obtain ⟨component, held⟩ := Option.isSome_iff_exists.1 found
      simp [insert, known, held]
    · simp [insert, known, here]
  · by_cases here : Text.fold r.parameter = key
    · subst here
      have missed : index.byName.get? (Text.fold r.parameter) = none := by
        simpa [Dict.contains] using known
      simp [insert, known, missed]
    · simp [insert, known, here, Ne.symm here]

theorem byNameAndUnit_foldl (relations : List CompoundRelation) (index : CompoundIndex)
    (key : String) :
    (relations.foldl insert index).byNameAndUnit.get? key =
      ((relations.findRev? fun r => nameAndUnit r.parameter r.unit = key).map (·.component)).or
        (index.byNameAndUnit.get? key) := by
  induction relations generalizing index with
  | nil => simp [List.findRev?]
  | cons r rest ih =>
    rw [List.foldl_cons, ih, List.findRev?, byNameAndUnit_insert]
    cases rest.findRev? fun r => nameAndUnit r.parameter r.unit = key with
    | some later => simp
    | none => by_cases here : nameAndUnit r.parameter r.unit = key <;> simp [here]

theorem byName_foldl (relations : List CompoundRelation) (index : CompoundIndex) (key : String) :
    (relations.foldl insert index).byName.get? key = (index.byName.get? key).or
      ((relations.find? fun r => Text.fold r.parameter = key).map (·.component)) := by
  induction relations generalizing index with
  | nil => simp
  | cons r rest ih =>
    rw [List.foldl_cons, ih, List.find?_cons, byName_insert, Option.or_assoc]
    by_cases here : Text.fold r.parameter = key <;> simp [here]

theorem component?_ofRelations (relations : List CompoundRelation) (name : String)
    (unit : Option String) :
    (ofRelations relations).component? name unit =
      ((relations.findRev? fun r => nameAndUnit r.parameter r.unit = nameAndUnit name unit).or
        (relations.find? fun r => Text.fold r.parameter = Text.fold name)).map (·.component) := by
  simp [component?, ofRelations, byNameAndUnit_foldl, byName_foldl, empty, Option.map_or]

def sought? (relations : List CompoundRelation) (name : String) (unit : Option String) :
    Option CompoundRelation :=
  (relations.findRev? fun r => Text.fold r.parameter = Text.fold name ∧
      Text.fold (r.unit.getD "") = Text.fold (unit.getD "")).or
    (relations.find? fun r => Text.fold r.parameter = Text.fold name)

-- The bar that joins name and unit can also stand in the name of the one and the unit of the other.
def Confusable (name : String) (unit : Option String) (r : CompoundRelation) : Prop :=
  '|' ∈ (Text.fold r.parameter).toList ∧ '|' ∈ (Text.fold (unit.getD "")).toList ∨
    '|' ∈ (Text.fold name).toList ∧ '|' ∈ (Text.fold (r.unit.getD "")).toList

instance (name : String) (unit : Option String) : DecidablePred (Confusable name unit) :=
  fun _ => inferInstanceAs (Decidable (_ ∨ _))

theorem append_cons_eq_cases {c : Char} {a b u v : List Char} (same : a ++ c :: u = b ++ c :: v) :
    a = b ∧ u = v ∨ c ∈ a ∧ c ∈ v ∨ c ∈ b ∧ c ∈ u := by
  rcases List.append_eq_append_iff.1 same with ⟨more, rfl, rest⟩ | ⟨more, rfl, rest⟩
  · cases more with
    | nil => simp_all
    | cons d more =>
      obtain ⟨rfl, rfl⟩ := List.cons.inj rest
      simp
  · cases more with
    | nil => simp_all
    | cons d more =>
      obtain ⟨rfl, rfl⟩ := List.cons.inj rest
      simp

theorem nameAndUnit_eq_iff {name : String} {unit : Option String} {r : CompoundRelation}
    (clear : ¬ Confusable name unit r) :
    nameAndUnit r.parameter r.unit = nameAndUnit name unit ↔
      Text.fold r.parameter = Text.fold name ∧
        Text.fold (r.unit.getD "") = Text.fold (unit.getD "") := by
  constructor
  · intro same
    have chars := congrArg String.toList same
    simp only [nameAndUnit, String.toList_append, List.append_assoc] at chars
    rcases append_cons_eq_cases chars with ⟨names, units⟩ | confused
    · exact ⟨String.toList_inj.1 names, String.toList_inj.1 units⟩
    · exact absurd confused clear
  · rintro ⟨names, units⟩
    rw [nameAndUnit, nameAndUnit, names, units]

/-- The index answers with the last relation whose joined name and unit read alike, else with the
first one of the name. Where no bar can be taken for the one that joins, the first is the last
relation of the name and the unit. -/
theorem lookup_goes_by_name_and_unit (relations : List CompoundRelation) (name : String)
    (unit : Option String) :
    (ofRelations relations).component? name unit =
      ((relations.findRev? fun r => nameAndUnit r.parameter r.unit = nameAndUnit name unit).or
        (relations.find? fun r => Text.fold r.parameter = Text.fold name)).map (·.component) ∧
    ((∀ r ∈ relations, ¬ Confusable name unit r) →
      (ofRelations relations).component? name unit =
        (sought? relations name unit).map (·.component)) := by
  have answer := component?_ofRelations relations name unit
  refine ⟨answer, fun clear => ?_⟩
  have same : (relations.reverse.filter fun r =>
      nameAndUnit r.parameter r.unit = nameAndUnit name unit) =
        relations.reverse.filter fun r => Text.fold r.parameter = Text.fold name ∧
          Text.fold (r.unit.getD "") = Text.fold (unit.getD "") := by
    apply List.filter_congr
    intro r mem
    simp only [nameAndUnit_eq_iff (clear r (List.mem_reverse.1 mem))]
  rw [answer, sought?, List.findRev?_eq_find?_reverse, List.findRev?_eq_find?_reverse,
    ← List.head?_filter, same, List.head?_filter]

theorem lookup_goes_by_name_and_unit_current :
    let relations : List CompoundRelation := [⟨"I", some "A", "Насос"⟩, ⟨"i", some "a", "Котёл"⟩]
    (∀ unit ∈ [some "A", none], ∀ r ∈ relations, ¬ Confusable "i" unit r) ∧
      (ofRelations relations).component? "i" (some "A") = some "Котёл" ∧
      (ofRelations relations).component? "i" none = some "Насос" := by
  have clear : ∀ unit ∈ [some "A", none],
      ∀ r ∈ [⟨"I", some "A", "Насос"⟩, ⟨"i", some "a", "Котёл"⟩], ¬ Confusable "i" unit r := by
    decide +kernel
  refine ⟨clear, ((lookup_goes_by_name_and_unit _ _ _).2 (clear _ (by simp))).trans ?_,
    ((lookup_goes_by_name_and_unit _ _ _).2 (clear _ (by simp))).trans ?_⟩
  · decide +kernel
  · decide +kernel

-- What the index holds of "I|d" in "A" is also its answer for "I" in "d|A".
theorem lookup_can_take_unit_for_name :
    ¬ ∀ (texts : List String) (name : String) (unit : Option String),
      (ofRelations (texts.filterMap CompoundRelation.parse?)).component? name unit =
        (sought? (texts.filterMap CompoundRelation.parse?) name unit).map (·.component) := by
  intro answers
  have found : (ofRelations (["I|d, A<=>Насос"].filterMap CompoundRelation.parse?)).component?
      "I" (some "d|A") = some "Насос" := by
    decide +kernel
  have missed : (sought? (["I|d, A<=>Насос"].filterMap CompoundRelation.parse?) "I"
      (some "d|A")).map (·.component) = none := by
    decide +kernel
  have taken := answers ["I|d, A<=>Насос"] "I" (some "d|A")
  rw [found, missed] at taken
  cases taken

end CompoundIndex

end RefData
