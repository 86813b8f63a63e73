import Mathlib.Data.Finset.Basic
import RefData.Catalog.Defect
import RefData.Proofs.Exchange
set_option autoImplicit false

namespace RefData

namespace Defect

open Backend

def combinedCall : Call := .get snapshotPath []

namespace Part

def call (part : Part) : Call := .get part.endpoint []

def all : List Part := [.defects, .categories, .statuses, .severities]

theorem call_injective {part other : Part} (same : part.call = other.call) : part = other := by
  revert same
  cases part <;> cases other <;>
    simp [call, endpoint, Defect.path, categoriesPath, statusesPath, severitiesPath]

theorem call_ne_combinedCall (part : Part) : part.call ≠ combinedCall := by
  cases part <;>
    simp [call, combinedCall, endpoint, Defect.path, snapshotPath, categoriesPath, statusesPath,
      severitiesPath]

end Part

variable {β : Type} {b : Backend} {combined : Json} {outcome : Part → Except Failure (List Json)}

structure Served (b : Backend) (work : Inquiry β) (combined : Json)
    (outcome : Part → Except Failure (List Json)) : Prop where
  exposed : ∀ part records, Part.inCombined? part combined = some records →
    outcome part = .ok records
  listed : ∀ part, Part.inCombined? part combined = none →
    b.Lists work.attempt part.call (outcome part)

structure Settles (b : Backend) (work : Inquiry β) (combined : Json) (outcome : Except Failure β) :
    Prop where
  value : work.attempt.against b = outcome
  calls : ∀ call ∈ work.attempt.calls b,
    ∃ part, Part.inCombined? part combined = none ∧ call = part.call

theorem Served.continues {part : Part} {rest : List Json → Inquiry β}
    (served : Served b (part.fetch combined >>= rest) combined outcome) :
    ∃ asked later, (∀ call ∈ asked, part.inCombined? combined = none ∧ call = part.call) ∧
      b.Continues (part.fetch combined >>= rest).attempt asked later
        (Inquiry.goOn (outcome part) rest).attempt := by
  cases found : part.inCombined? combined with
  | some records =>
    have taken : part.fetch combined = pure records := by simp only [Part.fetch, found]
    rw [taken, served.exposed part records found]
    exact ⟨[], b, by simp, .refl b (rest records).attempt⟩
  | none =>
    have asked : part.fetch combined = Inquiry.listing part.call := by
      simp only [Part.fetch, found]
      rfl
    have listed := served.listed part found
    rw [asked] at *
    obtain ⟨later, continues⟩ := listed.continues
    exact ⟨[part.call], later, by simp, continues⟩

-- One part is fetched and the rest is known to settle, whatever the part comes to.
theorem Served.settles_bind {part : Part} {rest : List Json → Inquiry β}
    {final : List Json → Except Failure β}
    (served : Served b (part.fetch combined >>= rest) combined outcome)
    (next : ∀ records later, Served later (rest records) combined outcome →
      Settles later (rest records) combined (final records)) :
    Settles b (part.fetch combined >>= rest) combined ((outcome part).bind final) := by
  obtain ⟨asked, later, missing, continues⟩ := served.continues
  have settled : Settles later (Inquiry.goOn (outcome part) rest) combined
      ((outcome part).bind final) := by
    cases comes : outcome part with
    | error reason => exact ⟨rfl, fun call mem => (List.not_mem_nil mem).elim⟩
    | ok records =>
      rw [comes] at continues
      apply next records later
      exact ⟨served.exposed, fun other none => continues.answers (served.listed other none)⟩
  refine ⟨continues.value.trans settled.value, fun call mem => ?_⟩
  rw [continues.calls] at mem
  rcases List.mem_append.1 mem with before | after
  · exact ⟨part, missing call before⟩
  · exact settled.calls call after

def fetchParts (combined : Json) : Inquiry Snapshot := do
  let defects ← Part.defects.fetch combined
  let categories ← Part.categories.fetch combined
  let statuses ← Part.statuses.fetch combined
  let severities ← Part.severities.fetch combined
  return .compose defects categories statuses severities

def composed (outcome : Part → Except Failure (List Json)) : Except Failure Snapshot := do
  let defects ← outcome .defects
  let categories ← outcome .categories
  let statuses ← outcome .statuses
  let severities ← outcome .severities
  return .compose defects categories statuses severities

theorem Served.settles (served : Served b (fetchParts combined) combined outcome) :
    Settles b (fetchParts combined) combined (composed outcome) := by
  apply served.settles_bind
  intro defects b served
  apply served.settles_bind
  intro categories b served
  apply served.settles_bind
  intro statuses b served
  apply served.settles_bind
  intro severities b _
  exact ⟨rfl, fun call mem => (List.not_mem_nil mem).elim⟩

theorem fetchSnapshot_attempt :
    fetchSnapshot.attempt = Fetch.bind (.ask combinedCall fun reply =>
      .done (reply.toOption.getD .null)) fun combined => (fetchParts combined).attempt := by
  rw [← Inquiry.orElse_call]
  exact Inquiry.attempt_lift_bind _ _

theorem fetchSnapshot_continues {holds : Reply → Prop}
    (answers : b.Answers fetchSnapshot.attempt combinedCall holds) :
    ∃ reply later, holds reply ∧ b.Continues fetchSnapshot.attempt [combinedCall] later
      (fetchParts (reply.toOption.getD .null)).attempt := by
  rw [fetchSnapshot_attempt] at *
  exact ⟨(b.answer combinedCall b.state).1, _, answers _ List.mem_cons_self,
    Continues.bind (.ask combinedCall fun reply => .done (reply.toOption.getD .null))
      (fun combined => (fetchParts combined).attempt) b⟩

theorem composed_eq_error_iff (outcome : Part → Except Failure (List Json)) (reason : Failure) :
    composed outcome = .error reason ↔
      (Failure.among (Part.all.map outcome)).head? = some reason := by
  cases defects : outcome .defects <;> cases categories : outcome .categories <;>
    cases statuses : outcome .statuses <;> cases severities : outcome .severities <;>
    simp [composed, Part.all, bind, Except.bind, pure, Except.pure, *]

-- The combined reply has these parts, in a shape that can be read, and no others.
structure Exposes (combined : Json) (exposed : Finset Part)
    (outcome : Part → Except Failure (List Json)) : Prop where
  inside : ∀ part ∈ exposed, ∃ records,
    part.inCombined? combined = some records ∧ outcome part = .ok records
  outside : ∀ part ∉ exposed, part.inCombined? combined = none

namespace Exposes

variable {exposed : Finset Part}

theorem inCombined?_eq_none_iff (exposes : Exposes combined exposed outcome) (part : Part) :
    part.inCombined? combined = none ↔ part ∉ exposed := by
  constructor
  · intro none mem
    obtain ⟨records, has, _⟩ := exposes.inside part mem
    simp [none] at has
  · exact exposes.outside part

theorem served (exposes : Exposes combined exposed outcome) {work : Inquiry β}
    (lists : ∀ part ∉ exposed, b.Lists work.attempt part.call (outcome part)) :
    Served b work combined outcome := by
  constructor
  · intro part records found
    have mem : part ∈ exposed := by
      by_contra notMem
      simp [exposes.outside part notMem] at found
    obtain ⟨shown, has, comes⟩ := exposes.inside part mem
    rw [comes, Option.some.inj (has.symm.trans found)]
  · intro part none
    exact lists part ((exposes.inCombined?_eq_none_iff part).1 none)

theorem among_outside (exposes : Exposes combined exposed outcome) (parts : List Part) :
    Failure.among ((parts.filter (· ∉ exposed)).map outcome) =
      Failure.among (parts.map outcome) := by
  induction parts with
  | nil => rfl
  | cons part parts ih =>
    by_cases mem : part ∈ exposed
    · obtain ⟨records, _, comes⟩ := exposes.inside part mem
      simpa [mem, comes] using ih
    · cases comes : outcome part <;> simpa [mem, comes] using ih

end Exposes

theorem exposes_nothing (outcome : Part → Except Failure (List Json)) :
    Exposes .null ∅ outcome :=
  ⟨fun _ mem => (Finset.notMem_empty _ mem).elim, fun _ _ => rfl⟩

def crack : Json := .obj [("categoryId", .int 1), ("id", .int 7), ("name", .str "Трещина")]

def crackOutcome : Part → Except Failure (List Json)
  | .defects => .ok [crack]
  | .severities => .error (.http 500 "down")
  | _ => .ok []

def crackCombined : Json :=
  .obj [("defects", .obj [("result", .obj [("rows", .arr [crack])])]), ("statuses", .arr []),
    ("total", .int 1)]

def crackReplies (combined : Reply) : Call → Reply
  | .get "/object-defects/snapshot" _ => combined
  | .get "/object-defects" _ => .ok (.arr [crack])
  | .get "/object-defect-severities" _ => .error (.http 500 "down")
  | _ => .ok .null

end Defect

end RefData
