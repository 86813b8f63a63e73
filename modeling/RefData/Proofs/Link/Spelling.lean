import Mathlib.Data.List.Forall2
import RefData.Link.Stitch
import RefData.Proofs.Record.Text
set_option autoImplicit false

namespace RefData

namespace Json

inductive Spells (n : Int) : Json → Prop
  | int : Spells n (.int n)
  | float {x : Binary64} (same : x.value = n) : Spells n (.float x)
  | decimal {before behind : List Char} (blankBefore : ∀ c ∈ before, Text.isBlank c)
      (blankBehind : ∀ c ∈ behind, Text.isBlank c) :
      Spells n (.str (String.ofList (before ++ (toString n).toList ++ behind)))

theorem text?_of_spells {n : Int} {v : Json} (small : n.natAbs < 2 ^ 53) (spells : v.Spells n) :
    v.text? = some (toString n) := by
  rw [toString_eq_intText]
  cases spells with
  | int => rfl
  | @float x same =>
    have exact : exactInt? x = some n := by
      rw [exactInt?, Binary64.toInt?_eq_some_iff.2 same, Option.filter_some]
      exact if_pos (decide_eq_true (by unfold maxExactInt; omega))
    rw [text?, exact]
  | decimal blankBefore blankBehind =>
    have filled : (String.ofList (intText n)).isEmpty = false := by
      simpa using intText_ne_nil n
    rw [text?, Text.trim, String.toList_ofList, toString_eq_intText, String.toList_ofList,
      Text.trimChars_padded blankBefore (unpadded_intText n) blankBehind, nonempty?, filled]
    rfl

end Json

namespace Link

def idFields : List (AliasTable × List String) := [
  (parameterClassAliases, ["id", "cls"]),
  (relationAliases, ["parameterId", "parameterCls", "componentId", "componentCls", "relationId"]),
  (componentAliases, ["id", "cls"]),
  (limitAliases, ["relationId"])]

def idKeys : List String := idFields.flatMap fun (aliases, fields) => fields.flatMap aliases.keys

def Alike (key : String) (v w : Json) : Prop :=
  v = w ∨ key ∈ idKeys ∧ ∃ n : Int, n.natAbs < 2 ^ 53 ∧ v.Spells n ∧ w.Spells n

inductive Respelled : Json → Json → Prop
  | same (raw : Json) : Respelled raw raw
  | fields {fields fields' : List (String × Json)}
      (alike : List.Forall₂ (fun f g => f.1 = g.1 ∧ Alike f.1 f.2 g.2) fields fields') :
      Respelled (.obj fields) (.obj fields')

structure Payload.Respelled (payload payload' : Payload) : Prop where
  relations : List.Forall₂ Link.Respelled payload.relations payload'.relations
  components : List.Forall₂ Link.Respelled payload.components payload'.components
  limits : List.Forall₂ Link.Respelled payload.limits payload'.limits

theorem Alike.text?_eq {key : String} {v w : Json} (alike : Alike key v w) :
    v.text? = w.text? := by
  obtain rfl | ⟨-, n, small, spells, spells'⟩ := alike
  · rfl
  · rw [Json.text?_of_spells small spells, Json.text?_of_spells small spells']

theorem Alike.eq_of_not_mem {key : String} {v w : Json} (alike : Alike key v w)
    (other : key ∉ idKeys) : v = w :=
  alike.resolve_right fun respelled => other respelled.1

-- Keys stay, so each lookup meets the same field of both records.
theorem get?_alike {fields fields' : List (String × Json)}
    (alike : List.Forall₂ (fun f g => f.1 = g.1 ∧ Alike f.1 f.2 g.2) fields fields')
    (key : String) : Option.Rel (Alike key) (Assoc.get? key fields) (Assoc.get? key fields') := by
  induction alike with
  | nil => exact .none
  | @cons f g rest rest' head tail ih =>
    obtain ⟨key', v⟩ := f
    obtain ⟨key'', w⟩ := g
    obtain ⟨rfl, values⟩ := head
    simp only [Assoc.get?]
    split
    · next same =>
      rw [Std.LawfulEqCmp.eq_of_compare same]
      exact .some values
    · exact ih

theorem bind_eq_of_rel {α β : Type} {R : α → α → Prop} {read : α → Option β}
    (reads : ∀ a b, R a b → read a = read b) {a? b? : Option α} (related : Option.Rel R a? b?) :
    a?.bind read = b?.bind read := by
  cases related with
  | none => rfl
  | some values => exact reads _ _ values

theorem first?_eq {α : Type} {read : Json → Option α} {fields fields' : List (String × Json)}
    {keys : List String}
    (alike : List.Forall₂ (fun f g => f.1 = g.1 ∧ Alike f.1 f.2 g.2) fields fields')
    (reads : ∀ key ∈ keys, ∀ v w, Alike key v w → read v = read w) :
    Pick.first? read fields keys = Pick.first? read fields' keys := by
  unfold Pick.first?
  induction keys with
  | nil => rfl
  | cons key rest ih =>
    have here : (Assoc.get? key fields).bind read = (Assoc.get? key fields').bind read :=
      bind_eq_of_rel (reads key List.mem_cons_self) (get?_alike alike key)
    have there := ih fun key mem => reads key (List.mem_cons_of_mem _ mem)
    rw [List.findSome?_cons, List.findSome?_cons, here, there]

section Readings

variable {raw raw' : Json} (respelled : Respelled raw raw')

include respelled

theorem Respelled.text?_eq (aliases : AliasTable) (field : String) :
    (Record.mk aliases raw).text? field = (Record.mk aliases raw').text? field := by
  cases respelled with
  | same => rfl
  | fields alike => exact first?_eq alike fun key mem v w => Alike.text?_eq

-- Limits are numbers, which a respelling could change; no key of theirs is that of an id.
theorem Respelled.number?_eq (aliases : AliasTable) (field : String)
    (other : ∀ key ∈ aliases.keys field, key ∉ idKeys) :
    (Record.mk aliases raw).number? field = (Record.mk aliases raw').number? field := by
  cases respelled with
  | same => rfl
  | fields alike =>
    exact first?_eq alike fun key mem v w values =>
      congrArg Json.number? (values.eq_of_not_mem (other key mem))

theorem Respelled.parameterClass?_eq : parameterClass? raw = parameterClass? raw' := by
  simp only [parameterClass?, respelled.text?_eq]

theorem Respelled.target?_eq : target? raw = target? raw' := by
  simp only [target?, respelled.text?_eq]

theorem Respelled.compound?_eq : compound? raw = compound? raw' := by
  simp only [compound?, respelled.target?_eq, respelled.text?_eq]

theorem Respelled.componentName?_eq : componentName? raw = componentName? raw' := by
  simp only [componentName?, respelled.text?_eq]

theorem Respelled.limits?_eq : limits? raw = limits? raw' := by
  have low := respelled.number?_eq limitAliases "min" (by decide)
  have high := respelled.number?_eq limitAliases "max" (by decide)
  simp only [limits?, respelled.text?_eq, low, high]

end Readings

theorem filterMap_eq {α : Type} {read : Json → Option α} {raws raws' : List Json}
    (respelled : List.Forall₂ Respelled raws raws')
    (reads : ∀ raw raw', Respelled raw raw' → read raw = read raw') :
    raws.filterMap read = raws'.filterMap read := by
  induction respelled with
  | nil => rfl
  | cons head tail ih => simp only [List.filterMap_cons, reads _ _ head, ih]

end Link

namespace ParameterLinks

open Link

theorem stitch_eq_of_respelled {parameters parameters' : List Json} {payload payload' : Payload}
    (same : List.Forall₂ Respelled parameters parameters') (rest : payload.Respelled payload') :
    stitch parameters payload = stitch parameters' payload' := by
  have classes := filterMap_eq same fun _ _ => Respelled.parameterClass?_eq
  have targets := filterMap_eq rest.relations fun _ _ => Respelled.target?_eq
  have compounds := filterMap_eq rest.relations fun _ _ => Respelled.compound?_eq
  have names := filterMap_eq rest.components fun _ _ => Respelled.componentName?_eq
  have limits := filterMap_eq rest.limits fun _ _ => Respelled.limits?_eq
  simp only [stitch, classes, targets, compounds, names, limits]

/-- Links do not depend on how ids and classes are spelled. All spellings of an integer of 53 binary
digits have one text, another integer has another text, and the double nearest to the integer is one
of the spellings, as is the negative zero for zero. -/
theorem links_ignore_spelling {parameters parameters' : List Json} {payload payload' : Payload}
    (same : List.Forall₂ Respelled parameters parameters') (rest : payload.Respelled payload') :
    (stitch parameters payload).linkedCount = (stitch parameters' payload').linkedCount ∧
    (∀ id name unit, (stitch parameters payload).linkFor id name unit =
      (stitch parameters' payload').linkFor id name unit) ∧
    (∀ m n : Int, m.natAbs < 2 ^ 53 → n.natAbs < 2 ^ 53 → ∀ v w : Json, v.Spells m → w.Spells n →
      v.text? = some (toString m) ∧ (v.text? = w.text? ↔ m = n)) ∧
    (∀ n : Int, n.natAbs < 2 ^ 53 → ∃ x, Binary64.ofInt? n = some x ∧ (Json.float x).Spells n) ∧
    (Json.float (.zero true)).Spells 0 := by
  have stitched := stitch_eq_of_respelled same rest
  refine ⟨by rw [stitched], fun id name unit => by rw [stitched], ?_, ?_, ?_⟩
  · intro m n smallM smallN v w spellsV spellsW
    refine ⟨Json.text?_of_spells smallM spellsV, ?_⟩
    rw [Json.text?_of_spells smallM spellsV, Json.text?_of_spells smallN spellsW, Option.some_inj,
      toString_eq_intText, toString_eq_intText, String.ofList_inj, intText_injective.eq_iff]
  · intro n small
    obtain ⟨x, made, value⟩ := Binary64.ofInt?_of_small small
    exact ⟨x, made, .float value⟩
  · exact .float (Binary64.toInt?_eq_some_iff.1 (by decide +kernel))

theorem links_ignore_spelling_of_one :
    let one : Binary64 := ⟨false, 0x10000000000000, 1022, by decide, by decide, .inr (by decide)⟩
    let links := stitch [.obj [("id", .float one)]]
      { relations := [.obj [("idrom1", .str " 1\n"), ("idrom2", .str "c")]] }
    let links' := stitch [.obj [("id", .int 1)]]
      { relations := [.obj [("idrom1", .int 1), ("idrom2", .str "c")]] }
    links.linkedCount = links'.linkedCount ∧ links'.linkedCount = 1 := by
  intro one links links'
  have double : (Json.float one).Spells 1 :=
    .float (Binary64.toInt?_eq_some_iff.1 (by decide +kernel))
  have padded : (Json.str " 1\n").Spells 1 := by
    have text : " 1\n" = String.ofList ([' '] ++ (toString (1 : Int)).toList ++ ['\n']) := by
      decide +kernel
    rw [text]
    exact .decimal (List.forall_mem_singleton.2 (by decide))
      (List.forall_mem_singleton.2 (by decide))
  have respelled {key : String} {v : Json} (mem : key ∈ idKeys) (spells : v.Spells 1) :
      Alike key v (.int 1) := .inr ⟨mem, 1, by decide, spells, .int⟩
  have parameters : Respelled (.obj [("id", .float one)]) (.obj [("id", .int 1)]) :=
    .fields (.cons ⟨rfl, respelled (by decide +kernel) double⟩ .nil)
  have relations : Respelled (.obj [("idrom1", .str " 1\n"), ("idrom2", .str "c")])
      (.obj [("idrom1", .int 1), ("idrom2", .str "c")]) :=
    .fields (.cons ⟨rfl, respelled (by decide +kernel) padded⟩ (.cons ⟨rfl, .inl rfl⟩ .nil))
  refine ⟨(links_ignore_spelling (.cons parameters .nil) ⟨.cons relations .nil, .nil, .nil⟩).1, ?_⟩
  decide +kernel

end ParameterLinks

end RefData
