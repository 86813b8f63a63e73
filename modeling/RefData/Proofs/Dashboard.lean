import RefData.Catalog.Dashboard
import RefData.Proofs.Json.Fields
import RefData.Proofs.Record.Text
set_option autoImplicit false

namespace RefData

theorem Section.ofJson?_toJson (s : Section) : ofJson? s.toJson = some s := by
  cases s <;> rfl

namespace Dashboard

open Json

theorem incompleteField_eq_present (incomplete : Option Bool) :
    incompleteField incomplete = present [("partial", incomplete.map .bool)] := by
  cases incomplete <;> rfl

theorem nullable?_bool (incomplete : Option Bool) :
    nullable? bool? (incomplete.map .bool) = some incomplete := by
  cases incomplete <;> rfl

theorem counts?_ofFields (counts : List (String × Nat)) (distinct : (counts.map Prod.fst).Nodup) :
    counts? (counts.map Prod.fst) (ofFields (counts.map fun c => (c.1, .ofNat c.2))) =
      some (counts.map Prod.snd) := by
  let slots := counts.map fun c => (c.1, some (Json.ofNat c.2))
  have names : slots.map Prod.fst = counts.map Prod.fst := by simp [slots]
  have values : slots.map Prod.snd = (counts.map Prod.snd).map (some <| .ofNat ·) := by
    simp [slots]
  have written : present slots = counts.map fun c => (c.1, .ofNat c.2) := by
    simp [present, slots, List.filterMap_map]
  have read := slots?_ofFields slots (names ▸ distinct) 0
  rw [written, names, values] at read
  rw [counts?, read]
  exact mapM_map_eq_some fun n _ => nat64?_ofNat n

theorem SourcesCoverage.ofJson?_toJson (c : SourcesCoverage) : ofJson? c.toJson = some c := by
  have read : counts? ["total", "withIssuerDateExec"] c.toJson =
      some [c.total, c.withIssuerDateExec] :=
    counts?_ofFields [("total", _), ("withIssuerDateExec", _)] (by simp)
  rw [ofJson?, read]
  rfl

theorem TypesCoverage.ofJson?_toJson (c : TypesCoverage) : ofJson? c.toJson = some c := by
  have read : counts? ["total", "withShape", "withComponents"] c.toJson =
      some [c.total, c.withShape, c.withComponents] :=
    counts?_ofFields [("total", _), ("withShape", _), ("withComponents", _)] (by simp)
  rw [ofJson?, read]
  rfl

theorem ComponentsCoverage.ofJson?_toJson (c : ComponentsCoverage) :
    ofJson? c.toJson = some c := by
  have read : counts? ["total", "withParams", "withDefects"] c.toJson =
      some [c.total, c.withParams, c.withDefects] :=
    counts?_ofFields [("total", _), ("withParams", _), ("withDefects", _)] (by simp)
  rw [ofJson?, read]
  rfl

theorem ParamsCoverage.ofJson?_toJson (c : ParamsCoverage) : ofJson? c.toJson = some c := by
  have read : counts? ["total", "withUnitsAndBounds"] c.toJson =
      some [c.total, c.withUnitsAndBounds] :=
    counts?_ofFields [("total", _), ("withUnitsAndBounds", _)] (by simp)
  rw [ofJson?, read]
  rfl

theorem DefectsCoverage.ofJson?_toJson (c : DefectsCoverage) : ofJson? c.toJson = some c := by
  have read : counts? ["total", "withCategoryAndComponent"] c.toJson =
      some [c.total, c.withCategoryAndComponent] :=
    counts?_ofFields [("total", _), ("withCategoryAndComponent", _)] (by simp)
  rw [ofJson?, read]
  rfl

theorem WorksCoverage.ofJson?_toJson (c : WorksCoverage) : ofJson? c.toJson = some c := by
  have read : counts? ["total", "withTypePeriodSource"] c.toJson =
      some [c.total, c.withTypePeriodSource] :=
    counts?_ofFields [("total", _), ("withTypePeriodSource", _)] (by simp)
  rw [ofJson?, read]
  rfl

theorem Coverage.ofJson?_toJson (c : Coverage) : ofJson? c.toJson = some c := by
  have read : c.toJson.slots?
      ["sources", "types", "components", "params", "defects", "works", "partial"] 0 =
      some [some c.sources.toJson, some c.types.toJson, some c.components.toJson,
        some c.params.toJson, some c.defects.toJson, some c.works.toJson,
        c.incomplete.map .bool] := by
    rw [toJson, incompleteField_eq_present]
    exact slots?_ofFields [("sources", some _), ("types", some _), ("components", some _),
      ("params", some _), ("defects", some _), ("works", some _), ("partial", _)] (by simp) 0
  rw [ofJson?, read]
  simp [orDefault?, SourcesCoverage.ofJson?_toJson, TypesCoverage.ofJson?_toJson,
    ComponentsCoverage.ofJson?_toJson, ParamsCoverage.ofJson?_toJson,
    DefectsCoverage.ofJson?_toJson, WorksCoverage.ofJson?_toJson, nullable?_bool]

theorem RelationCounts.ofJson?_toJson (c : RelationCounts) : ofJson? c.toJson = some c := by
  have read : c.toJson.slots?
      ["sources", "types", "components", "params", "defects", "works", "partial"] 0 =
      some [some (.ofNat c.sources), some (.ofNat c.types), some (.ofNat c.components),
        some (.ofNat c.params), some (.ofNat c.defects), some (.ofNat c.works),
        c.incomplete.map .bool] := by
    rw [toJson, incompleteField_eq_present]
    exact slots?_ofFields [("sources", some _), ("types", some _), ("components", some _),
      ("params", some _), ("defects", some _), ("works", some _), ("partial", _)] (by simp) 0
  rw [ofJson?, read]
  simp [orDefault?, nullable?_bool]

theorem Severity.ofJson?_name (s : Severity) : ofJson? (.str s.name) = some s := by
  cases s <;> rfl

theorem textDict?_entries (d : Dict String String) :
    textDict? (.obj (d.entries.map fun (key, s) => (key, .str s))) = some d := by
  have read : (d.entries.map fun (key, s) => (key, Json.str s)).mapM
      (fun field => field.2.str?.map fun s => (field.1, s)) = some d.entries :=
    mapM_map_eq_some fun _ _ => rfl
  rw [textDict?, read, Option.map_some, Dict.ofList_entries]

theorem unpadded_of_looseText? {slot : Option Json} {s : String}
    (read : required? looseText? slot = some s) : Text.Unpadded s.toList := by
  obtain ⟨v, -, same⟩ := Option.bind_eq_some_iff.1 read
  cases same
  exact unpadded_textOrEmpty v

namespace Diagnostic

variable {d : Diagnostic}

theorem unpadded_code {v : Json} (read : ofJson? v = some d) : Text.Unpadded d.code.toList := by
  unfold ofJson? at read
  obtain ⟨slots, -, read⟩ := Option.bind_eq_some_iff.1 read
  split at read
  · obtain ⟨code, given, read⟩ := Option.bind_eq_some_iff.1 read
    simp only [Option.bind_eq_bind, Option.bind_eq_some_iff] at read
    obtain ⟨_, -, _, -, _, -, _, -, _, -, same⟩ := read
    cases same
    exact unpadded_of_looseText? given
  · cases read

theorem ofJson?_toJson (unpadded : Text.Unpadded d.code.toList) : ofJson? d.toJson = some d := by
  have read : d.toJson.slots? ["code", "title", "count", "severity", "linkQuery", "target"] 6 =
      some [some (.str d.code), some (.str d.title), some (.ofNat d.count),
        some (.str d.severity.name),
        some (.obj (d.linkQuery.entries.map fun (key, s) => (key, .str s))),
        some d.target.toJson] :=
    slots?_ofFields [("code", some _), ("title", some _), ("count", some _), ("severity", some _),
      ("linkQuery", some _), ("target", some _)] (by simp) 6
  rw [ofJson?, read]
  simp [required?, orDefault?, looseText?, str?, textOrEmpty_str unpadded, Severity.ofJson?_name,
    Section.ofJson?_toJson, textDict?_entries]

theorem reads_back {v : Json} (read : ofJson? v = some d) : ofJson? d.toJson = some d :=
  ofJson?_toJson (unpadded_code read)

end Diagnostic

namespace Activity

variable {a : Activity}

theorem unpadded_ids {v : Json} (read : ofJson? v = some a) :
    Text.Unpadded a.id.toList ∧ Text.Unpadded a.targetId.toList := by
  unfold ofJson? at read
  obtain ⟨slots, -, read⟩ := Option.bind_eq_some_iff.1 read
  split at read
  · obtain ⟨id, given, read⟩ := Option.bind_eq_some_iff.1 read
    simp only [Option.bind_eq_bind, Option.bind_eq_some_iff] at read
    obtain ⟨_, -, _, -, _, -, _, -, targetId, aimed, same⟩ := read
    cases same
    exact ⟨unpadded_of_looseText? given, unpadded_of_looseText? aimed⟩
  · cases read

theorem ofJson?_toJson (unpadded : Text.Unpadded a.id.toList)
    (unpaddedTarget : Text.Unpadded a.targetId.toList) : ofJson? a.toJson = some a := by
  have read : a.toJson.slots? ["id", "title", "actor", "ts", "target", "targetId"] 6 =
      some [some (.str a.id), some (.str a.title), some (.str a.actor), some (.str a.ts),
        some a.target.toJson, some (.str a.targetId)] :=
    slots?_ofFields [("id", some _), ("title", some _), ("actor", some _), ("ts", some _),
      ("target", some _), ("targetId", some _)] (by simp) 6
  rw [ofJson?, read]
  simp [required?, orDefault?, looseText?, str?, textOrEmpty_str unpadded,
    textOrEmpty_str unpaddedTarget, Section.ofJson?_toJson]

theorem reads_back {v : Json} (read : ofJson? v = some a) : ofJson? a.toJson = some a :=
  ofJson?_toJson (unpadded_ids read).1 (unpadded_ids read).2

end Activity

namespace Listing

variable {α : Type} {item? : Json → Option α} {item : α → Json} {l : Listing α} {path : String}

theorem ofJson_toJson (path : String) (reads : ∀ x ∈ l.items, item? (item x) = some x) :
    ofJson path item? (l.toJson item) = .ok l := by
  have read : (l.toJson item).slots? ["items", "partial"] 0 =
      some [some (.arr (l.items.map item)), l.incomplete.map .bool] := by
    rw [toJson, incompleteField_eq_present]
    exact slots?_ofFields [("items", some _), ("partial", _)] (by simp) 0
  obtain ⟨fields, written⟩ : ∃ fields, l.toJson item = .obj fields := ⟨_, rfl⟩
  rw [written] at read ⊢
  simp only [slots?, List.map, Option.some.injEq, List.cons.injEq] at read
  obtain ⟨items, incomplete, -⟩ := read
  have flag : (l.incomplete.map Json.bool).bind bool? = l.incomplete := by
    cases l.incomplete <;> rfl
  simp [ofJson, items, incomplete, listOf?, mapM_map_eq_some reads, flag]

theorem items_of_ofJson {v : Json} (read : ofJson path item? v = .ok l) :
    l.items = [] ∨ ∃ list, listOf? item? list = some l.items := by
  unfold ofJson at read
  dsimp only at read
  split at read
  next list =>
    cases given : listOf? item? (.arr list) <;> rw [given] at read <;> cases read
    exact .inr ⟨_, given⟩
  next fields =>
    split at read
    · cases read
      exact .inl rfl
    · cases read
      exact .inl rfl
    next list _ _ =>
      cases given : listOf? item? list <;> rw [given] at read <;> cases read
      exact .inr ⟨_, given⟩
  next => cases read

theorem of_mem_items {v : Json} (read : ofJson path item? v = .ok l) {x : α} (mem : x ∈ l.items) :
    ∃ raw, item? raw = some x := by
  rcases items_of_ofJson read with none | ⟨list, given⟩
  · rw [none] at mem
    cases mem
  · cases list with
    | arr list =>
      obtain ⟨raw, -, readRaw⟩ := of_mem_of_mapM given mem
      exact ⟨raw, readRaw⟩
    | null | bool | int | float | str | obj => cases given

end Listing

/-- What was read once is written in a form that reads the same: listings in either form, with
whatever stands for an id and with what is missing, and the numbers of the sections. -/
theorem read_values_read_back (path again : String) (v : Json) :
    (∀ l, Listing.ofJson path Diagnostic.ofJson? v = .ok l →
      Listing.ofJson again Diagnostic.ofJson? (l.toJson Diagnostic.toJson) = .ok l) ∧
    (∀ l, Listing.ofJson path Activity.ofJson? v = .ok l →
      Listing.ofJson again Activity.ofJson? (l.toJson Activity.toJson) = .ok l) ∧
    (∀ c, decode path Coverage.ofJson? v = .ok c →
      decode again Coverage.ofJson? c.toJson = .ok c) ∧
    ∀ c, decode path RelationCounts.ofJson? v = .ok c →
      decode again RelationCounts.ofJson? c.toJson = .ok c := by
  refine ⟨fun l read => ?_, fun l read => ?_, fun c _ => ?_, fun c _ => ?_⟩
  · refine Listing.ofJson_toJson again fun d mem => ?_
    obtain ⟨raw, readRaw⟩ := Listing.of_mem_items read mem
    exact Diagnostic.reads_back readRaw
  · refine Listing.ofJson_toJson again fun a mem => ?_
    obtain ⟨raw, readRaw⟩ := Listing.of_mem_items read mem
    exact Activity.reads_back readRaw
  · rw [decode, c.ofJson?_toJson]
  · rw [decode, c.ofJson?_toJson]

theorem read_values_read_back_of_samples :
    let diagnostics : Json := .arr [.obj [("code", .int 17),
      ("severity", .obj [("warning", .null)]), ("target", .str "params"), ("title", .str "Ед.")]]
    let activity : Json := .obj [("items", .arr [.arr [.null, .str "Изменён", .str "ivanov",
      .str "2024-05-01", .str "defects", .str " 201 "]]), ("partial", .bool false)]
    let coverage : Json := .obj [("params", .obj [("total", .int 10)]), ("partial", .null)]
    let counts : Json := .arr [.int 4, .int 1]
    let l : Listing Diagnostic :=
      { items := [⟨"17", "Ед.", 0, .warning, Dict.empty, .params⟩] }
    let m : Listing Activity :=
      { items := [⟨"", "Изменён", "ivanov", "2024-05-01", .defects, "201"⟩],
        incomplete := some false }
    let c : Coverage := { params := { total := 10 } }
    let n : RelationCounts := { sources := 4, types := 1 }
    Listing.ofJson "" Diagnostic.ofJson? diagnostics = .ok l ∧
      Listing.ofJson "" Activity.ofJson? activity = .ok m ∧
      decode "" Coverage.ofJson? coverage = .ok c ∧
      decode "" RelationCounts.ofJson? counts = .ok n ∧
      Listing.ofJson "" Diagnostic.ofJson? (l.toJson Diagnostic.toJson) = .ok l ∧
      Listing.ofJson "" Activity.ofJson? (m.toJson Activity.toJson) = .ok m ∧
      decode "" Coverage.ofJson? c.toJson = .ok c ∧
      decode "" RelationCounts.ofJson? n.toJson = .ok n := by
  intro diagnostics activity coverage counts l m c n
  have readL : Listing.ofJson "" Diagnostic.ofJson? diagnostics = .ok l := rfl
  have readM : Listing.ofJson "" Activity.ofJson? activity = .ok m := rfl
  have readC : decode "" Coverage.ofJson? coverage = .ok c := rfl
  have readN : decode "" RelationCounts.ofJson? counts = .ok n := rfl
  exact ⟨readL, readM, readC, readN, (read_values_read_back "" "" diagnostics).1 l readL,
    (read_values_read_back "" "" activity).2.1 m readM,
    (read_values_read_back "" "" coverage).2.2.1 c readC,
    (read_values_read_back "" "" counts).2.2.2 n readN⟩

end Dashboard

end RefData
