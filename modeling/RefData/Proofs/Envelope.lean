import RefData.Exchange.Envelope
import RefData.Record.Payload
set_option autoImplicit false

namespace RefData

namespace Json

variable {items : List Json} {v : Json}

def besideKeys : List String := ["records", "items", "data", "rows"]

def beside? (v : Json) : Option (List Json) :=
  v.fields?.bind fun fields => listUnder? fields besideKeys

-- What a result is searched for from outside: a list, or one level inside of it.
def inResult? : Json → Option (List Json)
  | .arr items => some items
  | .obj fields => listUnder? fields besideKeys
  | _ => none

theorem listUnder?_containerKeys (fields : List (String × Json)) :
    listUnder? fields containerKeys =
      (listUnder? fields besideKeys).or ((Assoc.get? "result" fields).bind items?) := by
  have split : containerKeys = besideKeys ++ ["result"] := rfl
  rw [split, listUnder?, List.findSome?_append, List.findSome?_singleton]
  rfl

theorem records?_obj (fields : List (String × Json)) :
    (obj fields).records? =
      (listUnder? fields besideKeys).or ((Assoc.get? "result" fields).bind inResult?) := by
  have inner : containerKeys.filter (· != "result") = besideKeys := rfl
  rw [records?, listUnder?_containerKeys, inner]
  cases listUnder? fields besideKeys with
  | some items => rfl
  | none =>
    cases Assoc.get? "result" fields with
    | none => rfl
    | some result => cases result <;> rfl

theorem records?_of_inResult? (found : inResult? v = some items) : v.records? = some items := by
  cases v with
  | arr list => exact found
  | obj fields =>
    rw [inResult?] at found
    rw [records?_obj, found]
    rfl
  | null | bool | int | float | str => cases found

theorem records?_of_beside? (found : v.beside? = some items) : v.records? = some items := by
  cases v with
  | obj fields =>
    rw [records?_obj]
    simp only [beside?, fields?, Option.bind_some] at found
    rw [found]
    rfl
  | null | bool | int | float | str | arr => cases found

end Json

namespace Envelope

open Json

variable {body : Json} {items : List Json}

theorem decode_of_no_error (method : String)
    (noError : ∀ error, body.field? "error" = some error → error.truthy = false) :
    decode method body = .ok ((body.field? "result").getD body) := by
  have none : error? body = none := by
    rw [error?, Option.filter_eq_none_iff]
    intro error found
    simp [noError error found]
  simp only [decode, none]

theorem records?_result (known : body.records? = some items)
    (alone : (body.field? "result").isSome → body.beside? = none) :
    ((body.field? "result").getD body).records? = some items := by
  cases has : body.field? "result" with
  | none => exact known
  | some result =>
    cases body with
    | obj fields =>
      have none : listUnder? fields besideKeys = none := alone (by simp [has])
      have found : Assoc.get? "result" fields = some result := has
      rw [records?_obj, none, found] at known
      exact records?_of_inResult? known
    | null | bool | int | float | str | arr => cases has

/-- A reply without an error can be opened. It lists the same records opened and unopened, except
that one with a result and a list beside it lists those of its result when it is opened and that
list when it is not. -/
theorem opened_reply_lists_same_records (method : String)
    (noError : ∀ error, body.field? "error" = some error → error.truthy = false) :
    ∃ opened, decode method body = .ok opened ∧
      (body.hasRecords → ((body.field? "result").isSome → body.beside? = none) →
        opened.records = body.records) ∧
      ∀ result list, body.field? "result" = some result → body.beside? = some list →
        opened.records = result.records ∧ body.records = list := by
  refine ⟨_, decode_of_no_error method noError, ?_, ?_⟩
  · intro known alone
    obtain ⟨items, shape⟩ := Option.isSome_iff_exists.1 known
    rw [records, records, records?_result shape alone, shape]
  · intro result list has found
    refine ⟨by rw [has, Option.getD_some], ?_⟩
    rw [records, records?_of_beside? found, Option.getD_some]

theorem opened_reply_lists_rows :
    let body := obj [("error", .str ""),
      ("result", .obj [("result", .arr [.int 8]), ("rows", .arr [.int 7])])]
    body.hasRecords ∧ body.beside? = none ∧ body.records = [.int 7] ∧
      ∃ opened, decode "data/loadParameters" body = .ok opened ∧ opened.records = body.records := by
  intro body
  have noError : ∀ error, body.field? "error" = some error → error.truthy = false := by
    intro error found
    cases found
    rfl
  obtain ⟨opened, decoded, same, _⟩ :=
    opened_reply_lists_same_records "data/loadParameters" noError
  exact ⟨rfl, rfl, rfl, opened, decoded, same rfl fun _ => rfl⟩

theorem opened_reply_can_list_others :
    ¬ ∀ (method : String) (body : Json),
      (∀ error, body.field? "error" = some error → error.truthy = false) → body.hasRecords →
      (decode method body).map records = .ok body.records := by
  intro same
  have listed := same "data/loadComponents"
    (.obj [("items", .arr [.int 2]), ("result", .obj [("records", .arr [.int 1])])])
    (fun _ found => by cases found) rfl
  have other : (.ok [int 1] : Except Failure (List Json)) = .ok [int 2] := listed
  simp at other

end Envelope

end RefData
