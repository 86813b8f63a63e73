import RefData.Proofs.Listing
set_option autoImplicit false

namespace RefData

open Collation

theorem Lookup.nameOf?_ofOptions_sort (options : List DirectoryOption) (id : String) :
    (ofOptions (DirectoryOption.sort options)).nameOf? (some id) =
      greatest? ((options.filter (·.id = id)).map (·.name)) := by
  have last : (DirectoryOption.sort options).findRev? (·.id = id) =
      (sortByName (·.name) (options.filter (·.id = id))).getLast? := by
    rw [List.findRev?_eq_find?_reverse, ← List.getLast?_filter]
    exact congrArg List.getLast? (filter_sortByName _ _ _)
  rw [nameOf?, Option.bind_some, get?_ofOptions, last, greatest?, ← map_name_sortByName,
    List.getLast?_map]

namespace Defect

inductive Reference where
  | category
  | status
  | severity

namespace Reference

def part : Reference → Part
  | .category => .categories
  | .status => .statuses
  | .severity => .severities

def idField : Reference → String
  | .category => "categoryId"
  | .status => "statusId"
  | .severity => "severityId"

def nameField : Reference → String
  | .category => "categoryName"
  | .status => "statusName"
  | .severity => "severityName"

def id? (d : Defect) : Reference → Option String
  | .category => d.categoryId
  | .status => d.statusId
  | .severity => d.severityId

def name? (d : Defect) : Reference → Option String
  | .category => d.categoryName
  | .status => d.statusName
  | .severity => d.severityName

def lookup (directories : Directories) : Reference → Lookup
  | .category => directories.categories
  | .status => directories.statuses
  | .severity => directories.severities

end Reference

-- The names that a directory has for an id, record by record; one without a name counts by its id.
def namesUnder (records : List Json) (id : String) : List String :=
  records.filterMap fun raw =>
    if (Record.mk directoryAliases raw).text? "id" = some id then
      some (((Record.mk directoryAliases raw).text? "name").getD id)
    else none

theorem names_filter_directoryOption? (records : List Json) (id : String) :
    ((records.filterMap directoryOption?).filter (·.id = id)).map (·.name) =
      namesUnder records id := by
  induction records with
  | nil => rfl
  | cons raw rest ih =>
    unfold namesUnder at ih ⊢
    cases read : (Record.mk directoryAliases raw).text? "id" with
    | none => simpa [directoryOption?, read] using ih
    | some own =>
      by_cases same : own = id
      · simpa [directoryOption?, read, same] using ih
      · simpa [directoryOption?, read, same] using ih

theorem nameOf?_directoryOptions (records : List Json) (id : String) :
    (Lookup.ofOptions (directoryOptions records)).nameOf? (some id) =
      greatest? (namesUnder records id) := by
  rw [directoryOptions, Lookup.nameOf?_ofOptions_sort, names_filter_directoryOption?]

theorem of_ofRecord? {raw : Json} {directories : Directories} {item : Defect}
    (read : ofRecord? raw directories = some item) (r : Reference) :
    r.id? item = (Record.mk aliases raw).text? r.idField ∧
      r.name? item = (r.lookup directories).resolve? (r.id? item)
        ((Record.mk aliases raw).text? r.nameField) := by
  simp only [ofRecord?, Option.bind_eq_bind, Option.bind_eq_some_iff] at read
  obtain ⟨id, _, name, _, same⟩ := read
  cases same
  cases r <;> exact ⟨rfl, rfl⟩

def Directories.told (said : Dialogue) : Directories where
  categories := .ofOptions (directoryOptions (Part.categories.told said))
  statuses := .ofOptions (directoryOptions (Part.statuses.told said))
  severities := .ofOptions (directoryOptions (Part.severities.told said))

theorem lookup_told (r : Reference) (said : Dialogue) :
    r.lookup (.told said) = .ofOptions (directoryOptions (r.part.told said)) := by
  cases r <;> rfl

theorem mem_items_iff {b : Backend} {snapshot : Snapshot} {said : Dialogue}
    (yields : fetchSnapshot.Yields b snapshot said) (item : Defect) :
    item ∈ snapshot.items ↔
      ∃ raw ∈ Part.defects.told said, ofRecord? raw (.told said) = some item := by
  rw [of_yields yields, ← List.mem_filterMap]
  exact (sortByName_perm _ _).mem_iff

theorem name?_of_ofRecord? {raw : Json} {said : Dialogue} {item : Defect}
    (read : ofRecord? raw (.told said) = some item) {r : Reference} {id : String}
    (refers : r.id? item = some id) :
    r.name? item = (greatest? (namesUnder (r.part.told said) id)).or
      ((Record.mk aliases raw).text? r.nameField) := by
  rw [(of_ofRecord? read r).2, refers, lookup_told, Lookup.resolve?, nameOf?_directoryOptions]

theorem or_eq_or_iff_greatest? (names : List String) (carried : Option String) :
    (greatest? names).or carried = names.getLast?.or carried ↔
      greatest? names = names.getLast? := by
  by_cases nothing : names = []
  · simp [nothing, (greatest?_eq_none_iff []).2]
  · have found : greatest? names ≠ none := mt (greatest?_eq_none_iff names).1 nothing
    obtain ⟨greatest, found⟩ := Option.ne_none_iff_exists'.1 found
    rw [found, List.getLast?_eq_some_getLast nothing, Option.some_or, Option.some_or]

/-- A defect shows, for each id that it refers to, the greatest of the names that the directory has
for the id, and its own name for it if the directory has none. It is the name of the last record
exactly if no other record of the id has a greater one. -/
theorem shown_names_are_greatest {b : Backend} {snapshot : Snapshot} {said : Dialogue}
    (yields : fetchSnapshot.Yields b snapshot said) :
    ∀ item ∈ snapshot.items,
      (∃ raw ∈ Part.defects.told said, ofRecord? raw (.told said) = some item) ∧
      ∀ raw, ofRecord? raw (.told said) = some item → ∀ r : Reference,
        let carried := (Record.mk aliases raw).text? r.nameField
        r.id? item = (Record.mk aliases raw).text? r.idField ∧
        (r.id? item = none → r.name? item = carried) ∧
        ∀ id, r.id? item = some id →
          let names := namesUnder (r.part.told said) id
          (names = [] → r.name? item = carried) ∧
          (names ≠ [] → ∃ shown ∈ names, r.name? item = some shown ∧
            ∀ name ∈ names, compareNames name shown ≠ .gt) ∧
          (r.name? item = names.getLast?.or carried ↔ ∀ last, names.getLast? = some last →
            ∀ name ∈ names, compareNames name last ≠ .gt) := by
  intro item shown
  refine ⟨(mem_items_iff yields item).1 shown, ?_⟩
  intro raw read r carried
  obtain ⟨sameId, named⟩ := of_ofRecord? read r
  refine ⟨sameId, fun refersNot => ?_, fun id refers => ?_⟩
  · rw [named, refersNot]
    rfl
  · intro names
    have named : r.name? item = (greatest? names).or carried := name?_of_ofRecord? read refers
    refine ⟨fun nothing => ?_, fun something => ?_, ?_⟩
    · rw [named, (greatest?_eq_none_iff names).2 nothing]
      rfl
    · cases found : greatest? names with
      | none => exact (something ((greatest?_eq_none_iff names).1 found)).elim
      | some greatest =>
        obtain ⟨mem, greater⟩ := greatest?_eq_some found
        refine ⟨greatest, mem, ?_, fun name isName => bne_iff_ne.1 (greater name isName)⟩
        rw [named, found]
        rfl
    · rw [named, ← greatest?_eq_getLast?_iff]
      exact or_eq_or_iff_greatest? names carried

def rustRecord : Json :=
  .obj [("categoryId", .int 1), ("id", .int 7), ("name", .str "Ржавчина"), ("severityId", .int 2),
    ("severityName", .str "Высокая")]

def rustReplies : Call → Reply
  | .get "/object-defects/snapshot" _ => .ok (.obj [
      ("categories", .arr [.obj [("id", .int 1), ("name", .str "Металл")],
        .obj [("id", .int 1), ("name", .str "Бетон")]]),
      ("defects", .arr [rustRecord]), ("severities", .arr []), ("statuses", .arr [])])
  | _ => .error (.transport "refused")

def rust (category severity : Option String) : Defect where
  id := "7"
  code := "7"
  name := "Ржавчина"
  categoryId := some "1"
  categoryName := category
  statusId := none
  statusName := none
  severityId := some "2"
  severityName := severity
  description := none
  createdAt := none
  updatedAt := none

theorem rust_shown :
    ∃ snapshot said, fetchSnapshot.Yields (.ofReplies rustReplies) snapshot said ∧
      rust (some "Металл") (some "Высокая") ∈ snapshot.items ∧
      ofRecord? rustRecord (.told said) = some (rust (some "Металл") (some "Высокая")) ∧
      namesUnder (Part.categories.told said) "1" = ["Металл", "Бетон"] ∧
      namesUnder (Part.severities.told said) "2" = [] := by
  let said := fetchSnapshot.attempt.exchanges (.ofReplies rustReplies)
  have yields : fetchSnapshot.Yields (.ofReplies rustReplies) _ said := ⟨rfl, rfl⟩
  have categories : namesUnder (Part.categories.told said) "1" = ["Металл", "Бетон"] := by
    decide +kernel
  have severities : namesUnder (Part.severities.told said) "2" = [] := by decide +kernel
  have greatest : greatest? ["Металл", "Бетон"] = some "Металл" := by
    rw [greatest?_perm (.swap "Бетон" "Металл" [])]
    exact greatest?_eq_getLast?_iff.2 (by decide +kernel)
  have read : ofRecord? rustRecord (.told said) =
      some (rust (some "Металл") (some "Высокая")) := by
    calc ofRecord? rustRecord (.told said)
        = some (rust ((Directories.told said).categories.resolve? (some "1") none)
            ((Directories.told said).severities.resolve? (some "2") (some "Высокая"))) := rfl
      _ = some (rust (some "Металл") (some "Высокая")) := by
        rw [Lookup.resolve?, Lookup.resolve?, Directories.told, nameOf?_directoryOptions,
          nameOf?_directoryOptions, categories, severities, greatest,
          (greatest?_eq_none_iff []).2 rfl]
        rfl
  have told : rustRecord ∈ Part.defects.told said := .head _
  exact ⟨_, said, yields, (mem_items_iff yields _).2 ⟨rustRecord, told, read⟩, read, categories,
    severities⟩

theorem shown_names_are_greatest_rust :
    ∃ snapshot said, fetchSnapshot.Yields (.ofReplies rustReplies) snapshot said ∧
      rust (some "Металл") (some "Высокая") ∈ snapshot.items ∧
      namesUnder (Part.categories.told said) "1" = ["Металл", "Бетон"] ∧
      (∃ shown ∈ ["Металл", "Бетон"], some "Металл" = some shown ∧
        ∀ name ∈ ["Металл", "Бетон"], compareNames name shown ≠ .gt) ∧
      namesUnder (Part.severities.told said) "2" = [] ∧
      some "Высокая" = (Record.mk aliases rustRecord).text? "severityName" := by
  obtain ⟨snapshot, said, yields, mem, read, categories, severities⟩ := rust_shown
  have law := (shown_names_are_greatest yields _ mem).2 rustRecord read
  obtain ⟨_, category, _⟩ := (law .category).2.2 "1" rfl
  obtain ⟨severity, _⟩ := (law .severity).2.2 "2" rfl
  rw [Reference.part, categories] at category
  exact ⟨snapshot, said, yields, mem, categories, category (List.cons_ne_nil _ _), severities,
    severity severities⟩

theorem shown_name_can_be_replaced :
    ¬ ∀ (b : Backend) (snapshot : Snapshot) (said : Dialogue),
      fetchSnapshot.Yields b snapshot said → ∀ item ∈ snapshot.items, ∀ raw,
        ofRecord? raw (.told said) = some item → ∀ (r : Reference) (id : String),
          r.id? item = some id → r.name? item = (namesUnder (r.part.told said) id).getLast?.or
            ((Record.mk aliases raw).text? r.nameField) := by
  intro last
  obtain ⟨snapshot, said, yields, mem, read, categories, _⟩ := rust_shown
  have same := last _ snapshot said yields _ mem rustRecord read .category "1" rfl
  rw [Reference.part, categories] at same
  exact absurd same (by decide +kernel)

end Defect

end RefData
