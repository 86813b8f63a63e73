import RefData.Catalog.Source
import RefData.Proofs.Exchange
import RefData.Proofs.Json.Fields
import RefData.Proofs.Record.Text
set_option autoImplicit false

namespace RefData

theorem Record.first?_of_key {α : Type} (r : Record) {field key : String} (read : Json → Option α)
    (only : r.aliases.keys field = [key]) :
    Pick.first? read r.content (r.aliases.keys field) = (r.raw.field? key).bind read := by
  rw [only, Pick.first?, Record.content]
  cases r.raw <;> simp [Json.field?, Json.fields?, Assoc.get?]

namespace Source

namespace Revision

-- What a form sends: a name, no white space around a text, no empty date, ids of 64 bits.
structure IsTidy (r : Revision) : Prop where
  named : r.name ≠ ""
  texts : ∀ s ∈ [r.name, r.documentNumber, r.approvalDate, r.author], Text.Unpadded s.toList
  dates : ∀ date ∈ [r.startDate, r.endDate], ∀ s ∈ date, s ≠ "" ∧ Text.Unpadded s.toList
  ids : ∀ id ∈ [some r.id, some r.cls, r.idDocumentNumber, r.idApprovalDate, r.idAuthor,
    r.idStartDate, r.idEndDate], ∀ n ∈ id, n ≤ maxInt64

variable {r : Revision}

theorem distinct_keys : (["accessLevel", "id", "cls", "name", "idDocumentNumber", "DocumentNumber",
    "idDocumentApprovalDate", "DocumentApprovalDate", "idDocumentAuthor", "DocumentAuthor",
    "idDocumentStartDate", "DocumentStartDate", "idDocumentEndDate", "DocumentEndDate"] :
      List String).Nodup := by
  decide

theorem first?_toJson {α : Type} {field key : String} {value : Json} (read : Json → Option α)
    (only : aliases.keys field = [key]) (sent : r.toJson.field? key = some value) :
    Pick.first? read (Record.mk aliases r.toJson).content (aliases.keys field) = read value := by
  rw [(Record.mk aliases r.toJson).first?_of_key read only, sent, Option.bind_some]

theorem fields_read_back (tidy : r.IsTidy) :
    (∀ e ∈ [("name", r.name), ("documentNumber", r.documentNumber),
        ("approvalDate", r.approvalDate), ("author", r.author)],
      (Record.mk aliases r.toJson).text? e.1 = Json.nonempty? e.2) ∧
    (∀ e ∈ [("startDate", r.startDate), ("endDate", r.endDate)],
      (Record.mk aliases r.toJson).text? e.1 = e.2) ∧
    ∀ e ∈ [("id", some r.id), ("cls", some r.cls), ("idDocumentNumber", r.idDocumentNumber),
        ("idApprovalDate", r.idApprovalDate), ("idAuthor", r.idAuthor),
        ("idStartDate", r.idStartDate), ("idEndDate", r.idEndDate)],
      (Record.mk aliases r.toJson).integer? e.1 = e.2 := by
  have sent {key : String} {value : Json} (mem : (key, value) ∈ _) :
      r.toJson.field? key = some value := Json.field?_ofFields distinct_keys mem
  have text {field key s : String} (only : aliases.keys field = [key])
      (given : r.toJson.field? key = some (.str s))
      (mem : s ∈ [r.name, r.documentNumber, r.approvalDate, r.author]) :
      (Record.mk aliases r.toJson).text? field = Json.nonempty? s :=
    (first?_toJson _ only given).trans (Json.text?_str (tidy.texts s mem))
  have date {field key : String} {date : Option String} (only : aliases.keys field = [key])
      (given : r.toJson.field? key = some (.ofStr? date)) (mem : date ∈ [r.startDate, r.endDate]) :
      (Record.mk aliases r.toJson).text? field = date :=
    (first?_toJson _ only given).trans (Json.text?_ofStr? (tidy.dates date mem))
  have number {field key : String} {id : Option Int} (only : aliases.keys field = [key])
      (given : r.toJson.field? key = some (.ofInt? id)) (mem : id ∈ _) :
      (Record.mk aliases r.toJson).integer? field = id :=
    (first?_toJson _ only given).trans (Json.integer?_ofInt? (tidy.ids id mem))
  refine ⟨fun e mem => ?_, fun e mem => ?_, fun e mem => ?_⟩
  all_goals simp only [List.mem_cons, List.not_mem_nil, or_false] at mem
  · rcases mem with rfl | rfl | rfl | rfl <;> exact text rfl (sent (by simp)) (by simp)
  · rcases mem with rfl | rfl <;> exact date rfl (sent (by simp)) (by simp)
  · rcases mem with rfl | rfl | rfl | rfl | rfl | rfl | rfl <;>
      exact number rfl (sent (by simp)) (by simp)

theorem ofRecord?_toJson (tidy : r.IsTidy) : ofRecord? r.toJson = some r.toSource := by
  have named : Json.nonempty? r.name = some r.name := if_neg (by simpa using tidy.named)
  obtain ⟨texts, dates, ids⟩ := fields_read_back tidy
  simp only [List.forall_mem_cons, List.not_mem_nil, IsEmpty.forall_iff, implies_true, and_true]
    at texts dates ids
  simp [ofRecord?, toSource, texts, dates, ids, named, Json.getD_nonempty?]

def saving (r : Revision) : Call := .rpc "data/saveSourceCollections" [.str "upd", r.toJson]

end Revision

variable {r : Revision} {b : Backend} {reply : Json}

theorem update_attempt (r : Revision) :
    (update r).attempt = .ask r.saving fun reply => .done (reply.map (afterRevision r)) := by
  change Fetch.ask _ _ = _
  congr 1
  funext reply
  cases reply <;> rfl

theorem update_against (answered : (b.answer r.saving b.state).1 = .ok reply) :
    (update r).attempt.against b = .ok (afterRevision r reply) := by
  rw [update_attempt]
  change (b.answer r.saving b.state).1.map _ = _
  rw [answered]
  rfl

def IsIdentified (raw : Json) : Prop :=
  ((Record.mk aliases raw).integer? "id").isSome ∧ ((Record.mk aliases raw).text? "name").isSome

instance : DecidablePred IsIdentified := fun _ => inferInstanceAs (Decidable (_ ∧ _))

theorem ofRecord?_isSome_iff {raw : Json} : (ofRecord? raw).isSome ↔ IsIdentified raw := by
  rw [ofRecord?, IsIdentified]
  cases (Record.mk aliases raw).integer? "id" with
  | none => simp
  | some id => cases (Record.mk aliases raw).text? "name" <;> simp

theorem ofRecord?_eq_none {raw : Json} (other : ¬ IsIdentified raw) : ofRecord? raw = none := by
  rwa [← ofRecord?_isSome_iff, Option.not_isSome_iff_eq_none] at other

/-- The record that is sent for a source reads back as the source that the revision leaves. So the
reply makes no difference if it is that record, if it lists it first, or if it shows no record at
all; but a reply that is a record itself is read as such, whatever it lists. -/
theorem sent_source_reads_back (tidy : r.IsTidy) :
    ofRecord? r.toJson = some r.toSource ∧
    (∀ (b : Backend) (reply : Json), (b.answer r.saving b.state).1 = .ok reply →
      (reply = r.toJson ∨
        reply.firstRecord? = some r.toJson ∧ ¬ IsIdentified reply ∨
        ¬ IsIdentified reply ∧ ∀ first ∈ reply.firstRecord?, ¬ IsIdentified first) →
      (update r).attempt.against b = .ok r.toSource) ∧
    ∀ (b : Backend) (reply : Json), (b.answer r.saving b.state).1 = .ok reply →
      IsIdentified reply → ∃ shown, ofRecord? reply = some shown ∧
        (update r).attempt.against b = .ok shown := by
  have own := Revision.ofRecord?_toJson tidy
  refine ⟨own, ?_, ?_⟩
  · rintro b reply answered shape
    rw [update_against answered, afterRevision]
    rcases shape with rfl | ⟨listed, other⟩ | ⟨other, noneListed⟩
    · rw [own]
      rfl
    · rw [ofRecord?_eq_none other, listed, Option.bind_some, own]
      rfl
    · have nothing : reply.firstRecord?.bind ofRecord? = none := by
        rw [Option.bind_eq_none_iff]
        exact fun first mem => ofRecord?_eq_none (noneListed first mem)
      rw [ofRecord?_eq_none other, nothing]
      rfl
  · intro b reply answered identified
    obtain ⟨shown, read⟩ := Option.isSome_iff_exists.1 (ofRecord?_isSome_iff.2 identified)
    refine ⟨shown, read, ?_⟩
    rw [update_against answered, afterRevision, read]
    rfl

def rules : Revision :=
  { id := 7, cls := 3, name := "ПТЭ", idAuthor := some maxInt64, startDate := some "2024-01-09" }

theorem rules_tidy : rules.IsTidy := ⟨by decide, by decide, by decide, by decide⟩

theorem sent_source_reads_back_listed :
    rules.IsTidy ∧
      (update rules).attempt.against (.always (.ok (.arr [rules.toJson]))) = .ok rules.toSource := by
  refine ⟨rules_tidy, (sent_source_reads_back rules_tidy).2.1 _ _ rfl (.inr (.inl ⟨rfl, ?_⟩))⟩
  decide

-- The object around the list is a record of its own here, and is read in place of the listed one.
def rulesInside : Json :=
  .obj [("id", .int 9), ("name", .str "Другой"), ("records", .arr [rules.toJson])]

theorem listed_source_can_be_passed_over :
    rules.IsTidy ∧ rulesInside.firstRecord? = some rules.toJson ∧
      (update rules).attempt.against (.always (.ok .null)) = .ok rules.toSource ∧
      (update rules).attempt.against (.always (.ok rulesInside)) ≠ .ok rules.toSource := by
  refine ⟨rules_tidy, rfl, rfl, fun same => ?_⟩
  have ids : Except.ok 9 = (Except.ok 7 : Except Failure Int) := congrArg (·.map Source.id) same
  cases ids

end Source

end RefData
