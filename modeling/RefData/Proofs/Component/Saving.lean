import RefData.Proofs.Component.Isolation
set_option autoImplicit false

namespace RefData

@[simp] theorem Component.field?_creationBody_cls (name : String) :
    (creationBody name).field? "cls" = some (.int defaultCls) := by
  simp [creationBody, Json.ofFields, Json.field?, Assoc.get?_insert]

@[simp] theorem Component.field?_creationBody_name (name : String) :
    (creationBody name).field? "name" = some (.str name) := by
  simp [creationBody, Json.ofFields, Json.field?, Assoc.get?_insert]

namespace ComponentInput

variable (input : ComponentInput) (id cls : Int)

@[simp] theorem field?_revisionBody_id :
    (input.revisionBody id cls).field? "id" = some (.int id) := by
  simp [revisionBody, Json.ofFields, Json.field?, Assoc.get?_insert]

@[simp] theorem field?_revisionBody_cls :
    (input.revisionBody id cls).field? "cls" = some (.int (input.cls.getD cls)) := by
  simp [revisionBody, Json.ofFields, Json.field?, Assoc.get?_insert]

@[simp] theorem field?_revisionBody_name :
    (input.revisionBody id cls).field? "name" = some (.str input.name) := by
  simp [revisionBody, Json.ofFields, Json.field?, Assoc.get?_insert]

variable {input}

theorem nameFor_of_named (named : Text.trim input.name ≠ "") :
    input.nameFor id = Text.trim input.name := by
  simp [nameFor, named]

theorem nameFor_of_blank (blank : Text.trim input.name = "") :
    input.nameFor id = "Компонент " ++ String.ofList (intText id) := by
  simp [nameFor, blank]

theorem proposedName_of_named (named : Text.trim input.name ≠ "") :
    input.proposedName = Text.trim input.name := by
  simp [proposedName, named]

theorem proposedName_of_blank (blank : Text.trim input.name = "") :
    input.proposedName = "Новый компонент" := by
  simp [proposedName, blank]

end ComponentInput

namespace Json

theorem records?_eq_none {fields : List (String × Json)}
    (plain : ∀ key ∈ containerKeys, Assoc.get? key fields = none) :
    (obj fields).records? = none := by
  have none : listUnder? fields containerKeys = none :=
    List.findSome?_eq_none_iff.2 fun key mem => by rw [plain key mem, Option.bind_none]
  simp only [records?, none, plain "result" (by decide)]

end Json

namespace Repository

open Component

variable {s : ComponentStore} {id : Int} {existing : StoredComponent} {name : String}
  {reply : Reply}

-- The reply shows the record that was sent, in any shape that can be read, under an id.
def Echoes (sent : Json) (id : Int) (reply : Reply) : Prop :=
  ∃ shown echo, reply = .ok shown ∧ Created.record? shown = some echo ∧
    (∀ key field, sent.field? key = some field → echo.field? key = some field) ∧
    (Record.mk aliases echo).integer? "id" = some id

theorem integer?_of_field? {raw : Json} {field key : String} {n : Int}
    (first : (aliases.keys field).head? = some key) (given : raw.field? key = some (.int n))
    (fits : n ≤ maxInt64) : (Record.mk aliases raw).integer? field = some n := by
  obtain ⟨others, keys⟩ := List.head?_eq_some_iff.1 first
  cases raw with
  | obj fields =>
    have found : Assoc.get? key fields = some (.int n) := given
    have read : Json.integer? (.int n) = some n := by simp [Json.integer?, Json.int64?, fits]
    simp [Record.integer?, Pick.integer?, Pick.first?, keys, Record.content, Json.fields?, found,
      read]
  | null | bool | int | float | str | arr => cases given

theorem ofReply_of_echoes (echoes : Echoes (creationBody name) id reply) :
    ∃ shownName, reply.bind (Created.ofReply name) = .ok ⟨id, defaultCls, shownName⟩ := by
  obtain ⟨shown, echo, rfl, record, same, number⟩ := echoes
  have cls : (Record.mk aliases echo).integer? "cls" = some defaultCls :=
    integer?_of_field? (by decide) (same _ _ (field?_creationBody_cls name)) (by decide)
  refine ⟨((Record.mk aliases echo).text? "name").getD name, ?_⟩
  simp only [Except.bind, Created.ofReply, record, number, cls]
  rfl

def calls {α : Type} (work : Repository α) (b : Backend) (s : ComponentStore) : List Call :=
  Fetch.calls (work.run s) b

def saving (action : String) (record : Json) : Call :=
  .rpc "data/saveComponents" [.str action, record]

theorem create_run (input : ComponentInput) (s : ComponentStore) :
    (create input).run s =
      .ask (saving "ins" (creationBody input.proposedName)) fun reply =>
        .done (s.settle (reply.bind (Created.ofReply input.proposedName)) input) := by
  rw [create, StateT.run_bind, StateT.run_monadLift, attempt_create]
  rfl

theorem update_run (stored : s.get? id = some existing) (input : ComponentInput) :
    (update id input).run s =
      .ask (saving "upd" (input.revisionBody id existing.cls)) fun _ =>
        .done (some (s.loaded (input.apply existing)), s.put (input.apply existing)) := by
  have opened : (get : Repository ComponentStore).run s = .done (s, s) := rfl
  rw [update, StateT.run_bind, opened]
  simp only [bind, Fetch.bind_done, stored]
  rfl

theorem create_calls (input : ComponentInput) (b : Backend) (s : ComponentStore) :
    (create input).calls b s = [saving "ins" (creationBody input.proposedName)] := by
  rw [calls, create_run]
  rfl

theorem update_calls (stored : s.get? id = some existing) (input : ComponentInput) (b : Backend) :
    (update id input).calls b s = [saving "upd" (input.revisionBody id existing.cls)] := by
  rw [calls, update_run stored]
  rfl

theorem create_of_echoes {input : ComponentInput} {b : Backend}
    (echoes : b.Answers ((create input).run s) (saving "ins" (creationBody input.proposedName))
      (Echoes (creationBody input.proposedName) id)) :
    ∃ c, (create input).against b s = (some (s.loaded c), s.put c) ∧ c.id = id ∧
      c.cls = defaultCls ∧ c.name = input.nameFor id := by
  rw [against, create_run] at *
  obtain ⟨shownName, created⟩ := ofReply_of_echoes (echoes _ List.mem_cons_self)
  refine ⟨input.apply ⟨id, defaultCls, shownName, [], [], []⟩, ?_, by simp, by simp, by simp⟩
  change s.settle _ input = _
  rw [created]
  rfl

def withId (id : Int) : Json → Json
  | .obj fields => .obj (Assoc.insert "id" (.int id) fields)
  | other => other

def echoing (id : Int) : Backend :=
  .ofReplies fun
    | .rpc _ [_, record] => .ok (withId id record)
    | _ => .error (.transport "refused")

theorem field?_withId {record : Json} (object : record.fields?.isSome) (id : Int) (key : String) :
    (withId id record).field? key = if key = "id" then some (.int id) else record.field? key := by
  cases record with
  | obj fields => simp [withId, Json.field?, Assoc.get?_insert]
  | null | bool | int | float | str | arr => cases object

theorem record?_withId {record : Json} (object : record.fields?.isSome)
    (plain : ∀ key ∈ containerKeys, record.field? key = none) (id : Int) :
    Created.record? (withId id record) = some (withId id record) := by
  have still (key : String) (mem : key ∈ containerKeys) : (withId id record).field? key = none := by
    rw [field?_withId object, if_neg (by rintro rfl; revert mem; decide), plain key mem]
  cases record with
  | obj fields =>
    have unlisted : (withId id (.obj fields)).records? = none := Json.records?_eq_none still
    rw [Created.record?, Json.firstRecord?, Json.records, unlisted]
    rfl
  | null | bool | int | float | str | arr => cases object

theorem echoing_echoes {α : Type} {sent : Json} (object : sent.fields?.isSome)
    (plain : ∀ key ∈ containerKeys, sent.field? key = none)
    (own : ∀ field, sent.field? "id" = some field → field = .int id)
    (fits : id ≤ maxInt64) (action : String) (work : Fetch α) :
    (echoing id).Answers work (saving action sent) (Echoes sent id) := by
  apply Backend.answers_ofReplies
  refine ⟨withId id sent, withId id sent, rfl, record?_withId object plain id, ?_, ?_⟩
  · intro key field found
    rw [field?_withId object]
    split
    next same => rw [own field (same ▸ found)]
    next => exact found
  · exact integer?_of_field? (by decide) ((field?_withId object id "id").trans (if_pos rfl)) fits

theorem echoing_creation {α : Type} (name : String) (fits : id ≤ maxInt64) (work : Fetch α) :
    (echoing id).Answers work (saving "ins" (creationBody name)) (Echoes (creationBody name) id) := by
  apply echoing_echoes _ _ _ fits
  · rfl
  · simp [containerKeys, creationBody, Json.ofFields, Json.field?, Assoc.get?_insert, Assoc.get?]
  · simp [creationBody, Json.ofFields, Json.field?, Assoc.get?_insert, Assoc.get?]

theorem echoing_revision {α : Type} (input : ComponentInput) (cls : Int) (fits : id ≤ maxInt64)
    (work : Fetch α) :
    (echoing id).Answers work (saving "upd" (input.revisionBody id cls))
      (Echoes (input.revisionBody id cls) id) := by
  apply echoing_echoes _ _ _ fits
  · rfl
  · simp [containerKeys, ComponentInput.revisionBody, Json.ofFields, Json.field?,
      Assoc.get?_insert, Assoc.get?]
  · simp

end Repository

namespace History

open ComponentStore Repository

variable {s : ComponentStore} {earlier : List ComponentStore}

/-- The record that the backend is sent has the class and the name that are stored, up to the white
space around the name in a change. A component created without a name gets one of two placeholders,
as its id is not known when it is sent. -/
theorem saved_record_is_stored (run : History (s :: earlier)) (input : ComponentInput)
    (b : Backend) :
    (∃ sent, (create input).calls b s = [saving "ins" sent] ∧
      ∀ id, b.Answers ((create input).run s) (saving "ins" sent) (Echoes sent id) →
        ∃ c, ((create input).against b s).2.get? id = some c ∧
          sent.field? "cls" = some (.int c.cls) ∧
          (Text.trim input.name ≠ "" → sent.field? "name" = some (.str c.name)) ∧
          (Text.trim input.name = "" → sent.field? "name" = some (.str "Новый компонент") ∧
            c.name = "Компонент " ++ String.ofList (intText id))) ∧
    ∀ id existing, s.get? id = some existing → ∃ sent,
      (update id input).calls b s = [saving "upd" sent] ∧ sent.field? "id" = some (.int id) ∧
      ∃ c, ((update id input).against b s).2.get? id = some c ∧
        (input.cls.getD existing.cls = existing.cls → sent.field? "cls" = some (.int c.cls)) ∧
        (Text.trim input.name ≠ "" →
          sent.field? "name" = some (.str input.name) ∧ c.name = Text.trim input.name) := by
  constructor
  · refine ⟨_, create_calls input b s, fun id echoes => ?_⟩
    obtain ⟨c, made, rfl, cls, name⟩ := create_of_echoes echoes
    refine ⟨c, by rw [made, get?_put, if_pos rfl], by simp [cls], ?_, ?_⟩
    · intro named
      rw [name, ComponentInput.nameFor_of_named _ named,
        ComponentInput.proposedName_of_named named, Component.field?_creationBody_name]
    · intro blank
      rw [ComponentInput.proposedName_of_blank blank, Component.field?_creationBody_name]
      exact ⟨rfl, name.trans (ComponentInput.nameFor_of_blank _ blank)⟩
  · intro id existing stored
    have keyed := run.keyed s (by simp)
    refine ⟨_, update_calls stored input b, by simp, input.apply existing, ?_, ?_, ?_⟩
    · rw [update_of_stored stored, keyed.get?_put_apply stored, if_pos rfl]
    · intro kept
      simp [kept]
    · intro named
      exact ⟨by simp, by simp [ComponentInput.nameFor_of_named _ named]⟩

theorem saved_bolt_is_stored :
    let input : ComponentInput := { name := " Болт " }
    Text.trim input.name ≠ "" ∧
      (∃ sent c, (create input).calls (echoing 41) .seeded = [saving "ins" sent] ∧
        ((create input).against (echoing 41) .seeded).2.get? 41 = some c ∧
        sent.field? "cls" = some (.int c.cls) ∧ sent.field? "name" = some (.str c.name)) ∧
      ∃ sent c, (update 1 input).calls (echoing 1) .seeded = [saving "upd" sent] ∧
        ((update 1 input).against (echoing 1) .seeded).2.get? 1 = some c ∧
        sent.field? "cls" = some (.int c.cls) := by
  intro input
  have named : Text.trim input.name ≠ "" := by decide
  obtain ⟨sent, asked, stores⟩ := (saved_record_is_stored .seeded input (echoing 41)).1
  have body : Component.creationBody input.proposedName = sent := by
    simpa [create_calls, saving] using asked
  obtain ⟨c, stored, cls, name, _⟩ :=
    stores 41 (body ▸ echoing_creation input.proposedName (by decide) _)
  obtain ⟨revised, askedToo, _, changed, storedToo, kept, _⟩ :=
    (saved_record_is_stored .seeded input (echoing 1)).2 1
      ⟨1, 1027, "Рельс", ["1"], ["101"], ["201"]⟩ (by decide)
  exact ⟨named, ⟨sent, c, asked, stored, cls, name named⟩, revised, changed, askedToo, storedToo,
    kept rfl⟩

-- A component without a name is sent under one placeholder and stored under another. A change is
-- sent as it was typed, with a class that the store does not take over.
theorem saved_record_can_differ_from_stored :
    (¬ ∀ (s : ComponentStore) (earlier : List ComponentStore), History (s :: earlier) →
      ∀ (input : ComponentInput) (b : Backend) (sent : Json) (id : Int) (c : StoredComponent),
        (create input).calls b s = [saving "ins" sent] →
        b.Answers ((create input).run s) (saving "ins" sent) (Echoes sent id) →
        ((create input).against b s).2.get? id = some c →
        sent.field? "name" = some (.str c.name)) ∧
    ¬ ∀ (s : ComponentStore) (earlier : List ComponentStore), History (s :: earlier) →
      ∀ (input : ComponentInput) (b : Backend) (sent : Json) (id : Int) (c : StoredComponent),
        (s.get? id).isSome → (update id input).calls b s = [saving "upd" sent] →
        b.Answers ((update id input).run s) (saving "upd" sent) (Echoes sent id) →
        ((update id input).against b s).2.get? id = some c →
        sent.field? "name" = some (.str c.name) ∨ sent.field? "cls" = some (.int c.cls) := by
  constructor
  · intro same
    have name := same _ _ .seeded { name := " " } (echoing 41) _ 41
      { id := 41, cls := 1027, name := "Компонент 41" } (create_calls _ _ _)
      (echoing_creation _ (by decide) _) (by decide)
    rw [Component.field?_creationBody_name, Option.some.injEq, Json.str.injEq] at name
    revert name
    decide
  · intro same
    have stored : ComponentStore.seeded.get? 1 =
        some ⟨1, 1027, "Рельс", ["1"], ["101"], ["201"]⟩ := by decide
    have either := same _ _ .seeded { name := " Рельс ", cls := some 5 } (echoing 1) _ 1
      { id := 1, cls := 1027, name := "Рельс" } (by decide) (update_calls stored _ _)
      (echoing_revision _ _ (by decide) _) (by decide)
    simp at either

end History

end RefData
