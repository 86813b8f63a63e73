import RefData.Catalog.Measure
import RefData.Proofs.Dialogue
import RefData.Proofs.Record.Integer
set_option autoImplicit false

namespace RefData.Measure

variable {text name : String} {b : Backend} {said : Dialogue} {outcome : Except Failure Measure}
  {answer : Reply} {record created : Json} {id : Int} {values : List Json}

def inserting (name : String) : Call := .metaRpc "measure/insert" [insertionBody name]

def loading : Call := .metaRpc "prop/loadPropValForUpd" [.int propertyId]

def saving (selected : List Json) : Call :=
  .metaRpc "prop/savePropRefVal" [.int propertyId, .arr selected]

def made (answer : Reply) : Except Failure (Json × Int) :=
  answer.bind fun reply =>
    match reply.firstRecord?.filter (·.fields?.isSome) with
    | none => .error (.decode "measure/insert returned no created record")
    | some record =>
      match recordId? record with
      | none => .error (.decode "created measure has no id")
      | some id => .ok (record, id)

theorem exists_fields_of_recordId? (numbered : recordId? record = some id) :
    ∃ fields, record = .obj fields := by
  cases record with
  | obj fields => exact ⟨fields, rfl⟩
  | null | bool | int | float | str | arr => cases numbered

theorem made_eq_ok_iff : made answer = .ok (record, id) ↔
    ∃ reply, answer = .ok reply ∧ reply.firstRecord? = some record ∧
      recordId? record = some id := by
  cases answer with
  | error reason => simp [made, Except.bind]
  | ok reply =>
    simp only [made, Except.bind, Except.ok.injEq, exists_eq_left']
    constructor
    · intro shown
      split at shown
      · cases shown
      next first =>
        split at shown
        · cases shown
        next numbered =>
          cases shown
          exact ⟨(Option.filter_eq_some_iff.1 first).1, numbered⟩
    · rintro ⟨first, numbered⟩
      obtain ⟨fields, rfl⟩ := exists_fields_of_recordId? numbered
      have kept : reply.firstRecord?.filter (·.fields?.isSome) = some (.obj fields) :=
        Option.filter_eq_some_iff.2 ⟨first, rfl⟩
      simp only [kept, numbered]

def proceed (asked : String) : Except Failure (Json × Int) → Fetch (Except Failure Measure)
  | .error reason => .done (.error reason)
  | .ok (record, id) =>
    .ask loading fun
      | .error reason => .done (.error reason)
      | .ok payload =>
        .ask (saving (selection id (createdName asked record) record payload.records)) fun last =>
          .done (last.map fun _ => ⟨id, createdName asked record⟩)

theorem create_attempt (filled : Text.trim text ≠ "") :
    (create text).attempt = .ask (inserting (Text.trim text)) fun answer =>
      proceed (Text.trim text) (made answer) := by
  have nonempty : (Text.trim text).isEmpty = false := by simpa using filled
  simp only [create, nonempty, Bool.false_eq_true, if_false]
  refine congrArg (Fetch.ask _) (funext fun answer => ?_)
  cases answer with
  | error reason => rfl
  | ok reply =>
    simp only [made, Except.bind, Fetch.bind_done, ExceptT.bindCont]
    cases reply.firstRecord?.filter (·.fields?.isSome) with
    | none => rfl
    | some record =>
      simp only [pure, ExceptT.pure, ExceptT.mk, Fetch.bind_done, ExceptT.bindCont]
      cases recordId? record with
      | none => rfl
      | some id =>
        refine congrArg (Fetch.ask _) (funext fun listing => ?_)
        cases listing with
        | error reason => rfl
        | ok payload =>
          refine congrArg (Fetch.ask _) (funext fun last => ?_)
          cases last <;> rfl

inductive Course (text : String) : Except Failure Measure → Dialogue → Prop
  | blank (blank : Text.trim text = "") :
      Course text (.error (.invalidInput "measure name is empty")) []
  | unmade (answer : Reply) (reason : Failure) (failed : made answer = .error reason) :
      Course text (.error reason) [(inserting (Text.trim text), answer)]
  | unlisted (answer : Reply) (record : Json) (id : Int) (shown : made answer = .ok (record, id))
      (reason : Failure) :
      Course text (.error reason) [(inserting (Text.trim text), answer), (loading, .error reason)]
  | saved (answer : Reply) (record : Json) (id : Int) (shown : made answer = .ok (record, id))
      (payload : Json) (last : Reply) :
      Course text (last.map fun _ => ⟨id, createdName (Text.trim text) record⟩)
        [(inserting (Text.trim text), answer), (loading, .ok payload),
          (saving (selection id (createdName (Text.trim text) record) record payload.records),
            last)]

theorem course_of_gives (gives : (create text).attempt.Gives b outcome said) :
    Course text outcome said := by
  by_cases blank : Text.trim text = ""
  · have ended : (create text).attempt =
        .done (.error (.invalidInput "measure name is empty")) := by
      simp only [create, blank]
      rfl
    rw [ended] at gives
    obtain ⟨rfl, rfl⟩ := gives.of_done
    exact .blank blank
  · rw [create_attempt blank] at gives
    obtain ⟨answer, _, _, rfl, behind⟩ := gives.of_ask
    cases shown : made answer with
    | error reason =>
      rw [shown] at behind
      obtain ⟨rfl, rfl⟩ := behind.of_done
      exact .unmade answer reason shown
    | ok both =>
      obtain ⟨record, id⟩ := both
      rw [shown] at behind
      obtain ⟨listing, _, _, rfl, listed⟩ := behind.of_ask
      cases listing with
      | error reason =>
        obtain ⟨rfl, rfl⟩ := listed.of_done
        exact .unlisted answer record id shown reason
      | ok payload =>
        obtain ⟨last, _, _, rfl, ended⟩ := listed.of_ask
        obtain ⟨rfl, rfl⟩ := ended.of_done
        exact .saved answer record id shown payload last

theorem course (text : String) (b : Backend) :
    Course text ((create text).attempt.against b) ((create text).attempt.exchanges b) :=
  course_of_gives ⟨rfl, rfl⟩

def Saves (call : Call) : Prop := ∃ params, call = .metaRpc "prop/savePropRefVal" params

theorem Course.ends (went : Course text outcome said) :
    (∀ exchange ∈ said, ¬ Saves exchange.1) ∧ (∃ reason, outcome = .error reason) ∨
    ∃ reply record id payload last,
      said = [(inserting (Text.trim text), .ok reply), (loading, .ok payload),
        (saving (selection id (createdName (Text.trim text) record) record payload.records),
          last)] ∧
      outcome = (last.map fun _ => ⟨id, createdName (Text.trim text) record⟩) ∧
      reply.firstRecord? = some record ∧ recordId? record = some id := by
  cases went with
  | blank => exact .inl ⟨by simp, _, rfl⟩
  | unmade answer reason => exact .inl ⟨by simp [Saves, inserting], _, rfl⟩
  | unlisted answer record id shown reason =>
    exact .inl ⟨by simp [Saves, inserting, loading], _, rfl⟩
  | saved answer record id shown payload last =>
    obtain ⟨reply, rfl, first, numbered⟩ := made_eq_ok_iff.1 shown
    exact .inr ⟨reply, record, id, payload, last, rfl, rfl, first, numbered⟩

def added (id : Int) (name : String) (created : Json) (values : List Json) : Json :=
  match values.find? fun v => recordId? v == some id with
  | some listed => check listed
  | none => selectionEntry id name created

theorem selection_eq (id : Int) (name : String) (created : Json) (values : List Json) :
    selection id name created values =
      values.filter isChecked ++ [added id name created values] := rfl

theorem recordId?_check (record : Json) : recordId? (check record) = recordId? record := by
  cases record with
  | obj fields => simp [recordId?, check, Json.field?, Assoc.get?_insert]
  | null | bool | int | float | str | arr => rfl

theorem isChecked_check (numbered : recordId? record = some id) : isChecked (check record) := by
  obtain ⟨fields, rfl⟩ := exists_fields_of_recordId? numbered
  simp [isChecked, check, Json.field?, Assoc.get?_insert, Json.flag, Json.flag?]

theorem recordId?_selectionEntry (fits : id ≤ maxInt64) (name : String) (created : Json) :
    recordId? (selectionEntry id name created) = some id := by
  simp [recordId?, selectionEntry, Json.ofFields, Json.field?, Assoc.get?_insert, Json.integer?,
    Json.int64?, fits]

theorem isChecked_selectionEntry (id : Int) (name : String) (created : Json) :
    isChecked (selectionEntry id name created) := by
  simp [isChecked, selectionEntry, Json.ofFields, Json.field?, Assoc.get?_insert, Json.flag,
    Json.flag?]

theorem recordId?_le (numbered : recordId? record = some id) : id ≤ maxInt64 := by
  obtain ⟨v, _, read⟩ := Option.bind_eq_some_iff.1 numbered
  exact Json.le_of_integer? read

section Selection

variable (fits : id ≤ maxInt64) (name : String) (created : Json) (values : List Json)

theorem isChecked_added (id : Int) : isChecked (added id name created values) := by
  unfold added
  split
  next listed found => exact isChecked_check (by simpa using List.find?_some found)
  next => exact isChecked_selectionEntry id name created

include fits

theorem recordId?_added : recordId? (added id name created values) = some id := by
  unfold added
  split
  next listed found =>
    rw [recordId?_check]
    simpa using List.find?_some found
  next => exact recordId?_selectionEntry fits name created

theorem filter_own_selection :
    (selection id name created values).filter (recordId? · == some id) =
      (values.filter fun v => isChecked v && recordId? v == some id) ++
        [added id name created values] := by
  have own := recordId?_added fits name created values
  simp [selection_eq, List.filter_filter, own, Bool.and_comm]

theorem filter_others_selection :
    (selection id name created values).filter (recordId? · != some id) =
      values.filter fun v => isChecked v && recordId? v != some id := by
  have own := recordId?_added fits name created values
  simp [selection_eq, List.filter_filter, own, Bool.and_comm]

end Selection

-- One chosen value has the id, and beside it stand those that were chosen under other ids.
structure SelectsOnce (id : Int) (values selected : List Json) : Prop where
  once : ∃ own, selected.filter (recordId? · == some id) = [own] ∧ isChecked own
  kept : selected.filter (recordId? · != some id) =
    values.filter fun v => isChecked v && recordId? v != some id

theorem selectsOnce_selection_iff (fits : id ≤ maxInt64) :
    SelectsOnce id values (selection id name created values) ↔
      ∀ v ∈ values, isChecked v → recordId? v ≠ some id := by
  have own := filter_own_selection fits name created values
  constructor
  · rintro ⟨⟨only, once, -⟩, -⟩ v mem checked numbered
    -- The created one is there in any case, so nothing is left for the values.
    rw [own] at once
    have alone := congrArg List.length once
    rw [List.length_append, List.length_singleton, List.length_singleton, Nat.add_eq_right,
      List.length_eq_zero_iff] at alone
    exact List.filter_eq_nil_iff.1 alone v mem (by simp [checked, numbered])
  · intro others
    have alone : (values.filter fun v => isChecked v && recordId? v == some id) = [] := by
      rw [List.filter_eq_nil_iff]
      intro v mem both
      rw [Bool.and_eq_true, beq_iff_eq] at both
      exact others v mem both.1 both.2
    rw [alone, List.nil_append] at own
    exact ⟨⟨_, own, isChecked_added name created values id⟩,
      filter_others_selection fits name created values⟩

def answering (record payload : Json) : Backend :=
  .ofReplies fun
    | .metaRpc "measure/insert" _ => .ok (.arr [record])
    | .metaRpc "prop/loadPropValForUpd" _ => .ok payload
    | _ => .ok .null

theorem exchanges_answering (filled : Text.trim text ≠ "") (numbered : recordId? record = some id)
    (payload : Json) :
    (create text).attempt.exchanges (answering record payload) =
      [(inserting (Text.trim text), .ok (.arr [record])), (loading, .ok payload),
        (saving (selection id (createdName (Text.trim text) record) record payload.records),
          .ok .null)] := by
  have shown : made (.ok (.arr [record])) = .ok (record, id) :=
    made_eq_ok_iff.2 ⟨_, rfl, rfl, numbered⟩
  rw [create_attempt filled]
  change (inserting (Text.trim text), .ok (.arr [record])) ::
    (proceed (Text.trim text) (made (.ok (.arr [record])))).exchanges (answering record payload) = _
  rw [shown]
  rfl

/-- What is saved is what was chosen before, in its order, and behind it the created measure. It is
chosen once exactly when it was not chosen before. -/
theorem created_measure_joins_selection {params : List Json}
    (reached : .metaRpc "prop/savePropRefVal" params ∈ (create text).attempt.calls b) :
    ∃ reply record id payload selected last own,
      (create text).attempt.exchanges b =
        [(inserting (Text.trim text), .ok reply), (loading, .ok payload),
          (saving selected, last)] ∧
      params = [.int propertyId, .arr selected] ∧
      reply.firstRecord? = some record ∧ recordId? record = some id ∧
      selected = payload.records.filter isChecked ++ [own] ∧ recordId? own = some id ∧
      isChecked own ∧
      (SelectsOnce id payload.records selected ↔
        ∀ v ∈ payload.records, isChecked v → recordId? v ≠ some id) := by
  rw [Fetch.calls_eq_exchanges] at reached
  obtain ⟨exchange, mem, asked⟩ := List.mem_map.1 reached
  rcases (course text b).ends with
    ⟨unsaved, -⟩ | ⟨reply, record, id, payload, last, said, -, first, numbered⟩
  · exact absurd ⟨params, asked⟩ (unsaved exchange mem)
  · have fits := recordId?_le numbered
    refine ⟨reply, record, id, payload, _, last, _, said, ?_, first, numbered, selection_eq _ _ _ _,
      recordId?_added fits _ _ _, isChecked_added _ _ _ _, selectsOnce_selection_iff fits⟩
    rw [said] at reached
    simpa [inserting, loading, saving] using reached

theorem created_measure_joins_metres :
    let metre := Json.obj [("checked", .bool true), ("id", .int 1)]
    let inch := Json.obj [("checked", .bool false), ("id", .int 2)]
    let mile := Json.obj [("checked", .str "on"), ("id", .int 3)]
    let listed := Json.obj [("checked", .bool false), ("id", .int 55)]
    let values := [metre, inch, mile, listed]
    let b := answering (.obj [("id", .int 55)]) (.arr values)
    let selected := [metre, mile, .obj [("checked", .bool true), ("id", .int 55)]]
    Call.metaRpc "prop/savePropRefVal" [.int propertyId, .arr selected] ∈
        (create " мм").attempt.calls b ∧
      SelectsOnce 55 values selected := by
  intro metre inch mile listed values b selected
  have numbered : recordId? (.obj [("id", .int 55)]) = some 55 := by decide +kernel
  have flags : values.map isChecked = [true, false, true, false] := by decide +kernel
  have ids : values.map recordId? = [some 1, some 2, some 3, some 55] := by decide +kernel
  simp only [values, List.map_cons, List.map_nil, List.cons.injEq, and_true] at flags ids
  have picked (name : String) (created : Json) : selection 55 name created values = selected := by
    simp only [selection, values, List.find?_cons, List.filter_cons, flags, ids]
    rfl
  have said := exchanges_answering (by decide : Text.trim " мм" ≠ "") numbered (.arr values)
  have reached : Call.metaRpc "prop/savePropRefVal" [.int propertyId, .arr selected] ∈
      (create " мм").attempt.calls b := by
    rw [Fetch.calls_eq_exchanges, said, Json.records, Json.records?, Option.getD_some, picked]
    simp [saving]
  refine ⟨reached, ?_⟩
  obtain ⟨reply, record, id, payload, chosen, last, own, exchanges, params, first, read, -, -, -,
    once⟩ := created_measure_joins_selection reached
  rw [said] at exchanges
  simp only [List.cons.injEq, Prod.mk.injEq, Except.ok.injEq] at exchanges
  obtain ⟨⟨-, rfl⟩, ⟨-, rfl⟩, -⟩ := exchanges
  cases first
  cases read.symm.trans numbered
  cases params
  refine once.2 ?_
  simp [Json.records, Json.records?, values, flags, ids]

-- A measure that is listed as chosen when it is made is saved twice.
theorem created_measure_can_be_chosen_twice :
    ¬ ∀ (text : String) (b : Backend) (reply record payload : Json) (id : Int)
      (selected : List Json) (last : Reply),
      (create text).attempt.exchanges b =
        [(inserting (Text.trim text), .ok reply), (loading, .ok payload),
          (saving selected, last)] →
      reply.firstRecord? = some record → recordId? record = some id →
      SelectsOnce id payload.records selected := by
  intro chosenOnce
  let record := Json.obj [("checked", .bool true), ("id", .int 55)]
  have numbered : recordId? record = some 55 := by decide +kernel
  have once := chosenOnce "мм" (answering record (.arr [record])) (.arr [record]) record
    (.arr [record]) 55 _ _ (exchanges_answering (by decide) numbered _) rfl numbered
  exact (selectsOnce_selection_iff (by decide)).1 once record List.mem_cons_self
    (by decide +kernel) numbered

/-- The selection is saved at most once and last, and only after a measure was made and values were
loaded; otherwise it fails and nothing is saved. What the values look like is not checked: if they
cannot be read, the created measure is saved alone. -/
theorem selection_is_saved_last (text : String) (b : Backend) :
    let said := (create text).attempt.exchanges b
    let outcome := (create text).attempt.against b
    (∀ exchange ∈ said, ¬ Saves exchange.1) ∧ (∃ reason, outcome = .error reason) ∨
    ∃ reply record id payload selected last,
      said = [(inserting (Text.trim text), .ok reply), (loading, .ok payload),
        (saving selected, last)] ∧
      outcome = (last.map fun _ => ⟨id, createdName (Text.trim text) record⟩) ∧
      reply.firstRecord? = some record ∧ recordId? record = some id ∧
      (payload.hasRecords = false →
        selected = [selectionEntry id (createdName (Text.trim text) record) record]) := by
  intro said outcome
  rcases (course text b).ends with
    unsaved | ⟨reply, record, id, payload, last, exchanges, came, first, numbered⟩
  · exact .inl unsaved
  · refine .inr ⟨reply, record, id, payload, _, last, exchanges, came, first, numbered, ?_⟩
    intro unknown
    have none : payload.records? = none := by simpa [Json.hasRecords] using unknown
    rw [Json.records, none]
    rfl

theorem selection_can_be_saved_unread :
    ¬ ∀ (text : String) (b : Backend) (payload : Json) (selected : List Json) (last : Reply),
      (loading, .ok payload) ∈ (create text).attempt.exchanges b →
      (saving selected, last) ∈ (create text).attempt.exchanges b → payload.hasRecords := by
  intro readable
  have numbered : recordId? (.obj [("id", .int 55)]) = some 55 := by decide +kernel
  have said := exchanges_answering (by decide : Text.trim "мм" ≠ "") numbered (.str "<html>")
  have read := readable "мм" _ (.str "<html>") _ _
    (said ▸ List.mem_cons_of_mem _ List.mem_cons_self)
    (said ▸ List.mem_cons_of_mem _ (List.mem_cons_of_mem _ List.mem_cons_self))
  cases read

end RefData.Measure
