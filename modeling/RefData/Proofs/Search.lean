import RefData.Catalog.Search
import RefData.Proofs.Exchange
import RefData.Proofs.Text
set_option autoImplicit false

namespace RefData

namespace Backend

variable {α : Type}

def Steady (b : Backend) : Prop :=
  ∀ call state other, (b.answer call state).1 = (b.answer call other).1

theorem Steady.against {b : Backend} (steady : b.Steady) (work : Fetch α) (state other : b.State) :
    work.against { b with state := state } = work.against { b with state := other } := by
  induction work generalizing state other with
  | done value => rfl
  | ask call next ih =>
    have later := ih (b.answer call state).1 (b.answer call state).2 (b.answer call other).2
    have same : (b.answer call state).1 = (b.answer call other).1 := steady call state other
    simp only [Fetch.against, Fetch.run, ← same] at later ⊢
    exact later

end Backend

namespace Search

structure Scope where
  Loaded : Type
  Item : Type
  fetch : Inquiry Loaded
  items : Loaded → List Item
  fields : Item → List (Option String)
  hit : Item → Hit

def Mentions (needle : String) (fields : List (Option String)) : Prop :=
  ∃ text, some text ∈ fields ∧ needle.toList <:+: (Text.fold text).toList

theorem holds_iff {needle : String} {fields : List (Option String)} :
    holds needle fields = true ↔ Mentions needle fields := by
  simp only [holds, Mentions, List.any_eq_true, Option.any_eq_true, Text.occursIn_iff]
  constructor
  · rintro ⟨field, mem, text, rfl, occurs⟩
    exact ⟨text, mem, occurs⟩
  · rintro ⟨text, mem, occurs⟩
    exact ⟨some text, mem, text, rfl, occurs⟩

instance (needle : String) (fields : List (Option String)) : Decidable (Mentions needle fields) :=
  decidable_of_iff _ holds_iff

namespace Scope

def sources : Scope := ⟨List Source, Source, Source.load, id, sourceFields, sourceHit⟩

def types : Scope :=
  ⟨ObjectType.Snapshot, ObjectType, ObjectType.fetchSnapshot, (·.items), typeFields, typeHit⟩

def components : Scope :=
  ⟨List Component, Component, Component.load, id, componentFields, componentHit⟩

def parameters : Scope :=
  ⟨Parameter.Snapshot, Parameter, Parameter.fetchSnapshot, (·.items), parameterFields, parameterHit⟩

def defects : Scope :=
  ⟨Defect.Snapshot, Defect, Defect.fetchSnapshot, (·.items), defectFields, defectHit⟩

def all : List Scope := [sources, types, components, parameters, defects]

def outcome (scope : Scope) (b : Backend) : Except Failure scope.Loaded :=
  scope.fetch.attempt.against b

def turn (b : Backend) (before : List Scope) : Backend :=
  before.foldl (fun b scope => b.after scope.fetch.attempt) b

def matching (scope : Scope) (needle : String) : Except Failure scope.Loaded → List Hit
  | .error _ => []
  | .ok loaded =>
    ((scope.items loaded).filter fun item => Mentions needle (scope.fields item)).map scope.hit

def search (scope : Scope) (needle : String) : Inquiry (List Hit) := do
  return hitsOf scope.fields scope.hit needle (scope.items (← scope.fetch))

theorem search_eq_orElse (scope : Scope) (needle : String) :
    (scope.search needle).orElse [] =
      scope.fetch.attempt.bind fun outcome => .done (scope.matching needle outcome) := by
  have filtered (loaded : scope.Loaded) :
      hitsOf scope.fields scope.hit needle (scope.items loaded) =
        scope.matching needle (.ok loaded) := by
    simp only [hitsOf, matching]
    congr 2
    funext item
    exact Bool.eq_iff_iff.2 (holds_iff.trans decide_eq_true_iff.symm)
  change (scope.search needle).attempt.bind _ = _
  rw [search, Inquiry.attempt_bind, Fetch.bind_assoc]
  congr 1
  funext outcome
  cases outcome with
  | error reason => rfl
  | ok loaded => exact congrArg Fetch.done (filtered loaded)

end Scope

open Scope

theorem searchSections_eq {query : String} (worded : Text.fold query ≠ "") :
    let needle := Text.fold query
    searchSections query =
      ((sources.search needle).orElse []).bind fun inSources =>
      ((types.search needle).orElse []).bind fun inTypes =>
      ((components.search needle).orElse []).bind fun inComponents =>
      ((parameters.search needle).orElse []).bind fun inParameters =>
      ((defects.search needle).orElse []).bind fun inDefects =>
      .done (aggregate [inSources, inTypes, inComponents, inParameters, inDefects]) := by
  have isEmpty : (Text.fold query).isEmpty = false := by simpa using worded
  simp only [searchSections, isEmpty]
  rfl

def found (needle : String) (b : Backend) : List Scope → List (List Hit)
  | [] => []
  | scope :: rest =>
    scope.matching needle (scope.outcome b) :: found needle (b.after scope.fetch.attempt) rest

theorem found_getElem? {needle : String} {b : Backend} {scopes : List Scope} {i : Nat}
    {scope : Scope} (at_i : scopes[i]? = some scope) :
    (found needle b scopes)[i]? =
      some (scope.matching needle (scope.outcome (turn b (scopes.take i)))) := by
  induction scopes generalizing b i with
  | nil => simp at at_i
  | cons first rest ih =>
    cases i with
    | zero =>
      cases at_i
      rfl
    | succ i => exact ih at_i

theorem searchSections_against {query : String} (worded : Text.fold query ≠ "") (b : Backend) :
    (searchSections query).against b = aggregate (found (Text.fold query) b all) := by
  rw [searchSections_eq worded]
  simp only [search_eq_orElse, Fetch.bind_assoc, Fetch.against_bind, Fetch.bind_done]
  rfl

-- The hits of each section that are left when there is room for so many in all.
def blocks (room : Nat) : List (List Hit) → List (List Hit)
  | [] => []
  | hits :: rest =>
    let block := (hits.take sectionLimit).take room
    block :: blocks (room - block.length) rest

theorem flatten_blocks (room : Nat) (found : List (List Hit)) :
    (blocks room found).flatten = (found.flatMap fun hits => hits.take sectionLimit).take room := by
  induction found generalizing room with
  | nil => simp [blocks]
  | cons hits rest ih =>
    have left : room - ((hits.take sectionLimit).take room).length =
        room - (hits.take sectionLimit).length := by
      simp only [List.length_take]
      omega
    simp only [blocks, List.flatten_cons, ih, List.flatMap_cons, List.take_append, left]

theorem eq_nil_of_mem_blocks_zero {found : List (List Hit)} {block : List Hit}
    (mem : block ∈ blocks 0 found) : block = [] := by
  induction found with
  | nil => simp [blocks] at mem
  | cons hits rest ih =>
    simp only [blocks, List.take_zero, List.length_nil, Nat.sub_zero, List.mem_cons] at mem
    exact mem.elim id ih

theorem length_flatten_blocks_le (room : Nat) (found : List (List Hit)) :
    (blocks room found).flatten.length ≤ room := by
  rw [flatten_blocks]
  exact List.length_take_le _ _

theorem length_blocks (room : Nat) (found : List (List Hit)) :
    (blocks room found).length = found.length := by
  induction found generalizing room with
  | nil => rfl
  | cons hits rest ih => simp [blocks, ih]

-- Of what was found in a section, a block shows as many of the first as the limits let it.
structure IsBlock (blocks : List (List Hit)) (i : Nat) (room : Nat) (hits block : List Hit) :
    Prop where
  start : block <+: hits
  limited : block.length ≤ sectionLimit
  full : block.length < min sectionLimit hits.length →
    blocks.flatten.length = room ∧ ∀ j later, i < j → blocks[j]? = some later → later = []

theorem isBlock_blocks {room : Nat} {found : List (List Hit)} {i : Nat} {hits block : List Hit}
    (at_i : found[i]? = some hits) (shown : (blocks room found)[i]? = some block) :
    IsBlock (blocks room found) i room hits block := by
  induction found generalizing room i with
  | nil => simp at at_i
  | cons first rest ih =>
    cases i with
    | zero =>
      cases at_i
      cases shown
      have size : ((hits.take sectionLimit).take room).length =
          min room (min sectionLimit hits.length) := by simp
      refine ⟨(List.take_prefix _ _).trans (List.take_prefix _ _), by omega, fun short => ?_⟩
      -- The block takes all the room there is, so that none is left for the others.
      have filled : ((hits.take sectionLimit).take room).length = room := by omega
      simp only [blocks, filled, Nat.sub_self]
      constructor
      · have none : (blocks 0 rest).flatten.length = 0 :=
          Nat.le_zero.1 (length_flatten_blocks_le 0 rest)
        simp only [List.flatten_cons, List.length_append, filled, none, Nat.add_zero]
      · intro j later after at_j
        obtain ⟨k, rfl⟩ : ∃ k, j = k + 1 := ⟨j - 1, by omega⟩
        exact eq_nil_of_mem_blocks_zero (List.mem_of_getElem? at_j)
    | succ i =>
      have block := @ih (room - ((first.take sectionLimit).take room).length) i at_i shown
      refine ⟨block.start, block.limited, fun short => ?_⟩
      obtain ⟨total, empty⟩ := block.full short
      constructor
      · have size : ((first.take sectionLimit).take room).length ≤ room := List.length_take_le _ _
        simp only [blocks, List.flatten_cons, List.length_append, total]
        omega
      · intro j later after at_j
        obtain ⟨k, rfl⟩ : ∃ k, j = k + 1 := ⟨j - 1, by omega⟩
        exact empty k later (by omega) at_j

theorem turn_eq (b : Backend) (before : List Scope) :
    ∃ state, turn b before = { b with state := state } := by
  induction before generalizing b with
  | nil => exact ⟨b.state, rfl⟩
  | cons scope rest ih => exact ih (b.after scope.fetch.attempt)

theorem Scope.outcome_turn {b : Backend} (steady : b.Steady) (scope : Scope)
    (before : List Scope) : scope.outcome (turn b before) = scope.outcome b := by
  obtain ⟨state, same⟩ := turn_eq b before
  rw [same]
  exact steady.against scope.fetch.attempt state b.state

/-- A search shows, section after section, the first items that mention the query: of a section that
cannot be fetched none, of one at most 20, in all at most 50, and fewer of a section than that only
when the search is full and nothing of the later sections is shown. -/
theorem search_shows_first_matches (b : Backend) {query : String} (worded : Text.fold query ≠ "") :
    ∃ blocks : List (List Hit),
      (searchSections query).against b = blocks.flatten ∧
      blocks.length = Scope.all.length ∧
      blocks.flatten.length ≤ 50 ∧
      ∀ (i : Nat) (scope : Scope) (block : List Hit),
        Scope.all[i]? = some scope → blocks[i]? = some block →
        let outcome := scope.outcome (turn b (Scope.all.take i))
        (∀ reason, outcome = .error reason → block = []) ∧
        (∀ loaded, outcome = .ok loaded → block <+: ((scope.items loaded).filter fun item =>
          Mentions (Text.fold query) (scope.fields item)).map scope.hit) ∧
        block.length ≤ 20 ∧
        (block.length < min 20 (scope.matching (Text.fold query) outcome).length →
          blocks.flatten.length = 50 ∧
          ∀ j later, i < j → blocks[j]? = some later → later = []) ∧
        (b.Steady → outcome = scope.outcome b) := by
  refine ⟨blocks totalLimit (found (Text.fold query) b all), ?_, ?_, ?_, ?_⟩
  · rw [searchSections_against worded, flatten_blocks, aggregate]
  · rw [length_blocks]
    rfl
  · exact length_flatten_blocks_le totalLimit _
  · intro i scope block at_i shown
    have isBlock := isBlock_blocks (found_getElem? at_i) shown
    refine ⟨?_, ?_, isBlock.limited, isBlock.full, fun steady => scope.outcome_turn steady _⟩
    · intro reason failed
      have start := isBlock.start
      rw [failed] at start
      exact List.prefix_nil.1 start
    · intro loaded came
      have start := isBlock.start
      rw [came] at start
      exact start

def railReplies : Call → Reply
  | .rpc "data/loadComponents" _ => .ok (.arr [.obj [("id", .int 5), ("name", .str "Р6")]])
  | _ => .error (.transport "refused")

theorem search_shows_rail :
    Text.fold " р" ≠ "" ∧ ∃ blocks : List (List Hit),
      (searchSections " р").against (.ofReplies railReplies) = blocks.flatten ∧
      blocks[0]? = some [] ∧
      ∃ block, blocks[2]? = some block ∧ block <+: [⟨"5", "Р6", none, .components⟩] := by
  have worded : Text.fold " р" ≠ "" := by decide +kernel
  obtain ⟨blocks, whole, five, -, each⟩ :=
    search_shows_first_matches (.ofReplies railReplies) worded
  have some_of_lt (i : Nat) (lt : i < 5) : ∃ block, blocks[i]? = some block :=
    ⟨_, List.getElem?_eq_getElem (five.symm ▸ lt)⟩
  obtain ⟨first, at_first⟩ := some_of_lt 0 (by decide)
  obtain ⟨third, at_third⟩ := some_of_lt 2 (by decide)
  have noSources := (each 0 .sources first rfl at_first).1 (.transport "refused") (by rfl)
  have came : components.outcome (turn (.ofReplies railReplies) (all.take 2)) =
      .ok [⟨"5", "Р6"⟩] := congrArg Except.ok (List.mergeSort_singleton _)
  have start := (each 2 .components third rfl at_third).2.1 _ came
  have shown : (List.filter (fun item => Mentions (Text.fold " р") (componentFields item))
      [⟨"5", "Р6"⟩]).map componentHit = [⟨"5", "Р6", none, .components⟩] := by decide +kernel
  exact ⟨worded, blocks, whole, noSources ▸ at_first, third, at_third, shown ▸ start⟩

end Search

end RefData
