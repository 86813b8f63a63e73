import RefData.Proofs.Proxy.Readdress
set_option autoImplicit false

namespace RefData.Proxy.Cookie

variable {cookie host : String} {first : List Char} {rest stay : List (List Char)}

structure IsHost (host : String) : Prop where
  given : host ≠ ""
  whole : ';' ∉ host.toList
  unpadded : Text.Unpadded host.toList

def completed (stay : List (List Char)) : List (List Char) := stay ++ completions stay

theorem stays_of_mem_completions {part : List Char} (mem : part ∈ completions stay) :
    Stays part := by
  have fixed : ∀ part ∈ fixedParts, Stays part := by decide
  exact fixed part (completions_subset stay mem)

-- Of what one server added, the next one takes away the domain only.
theorem filter_stays_additions (host : String) (stays : ∀ part ∈ stay, Stays part) :
    (stay ++ additions host stay).filter (fun part => Stays part) = completed stay := by
  have goes : ¬ Stays (domainPart host.toList) := fun stays => stays.2.1 rfl
  have kept : stay.filter (fun part => Stays part) = stay :=
    List.filter_eq_self.2 fun part mem => decide_eq_true (stays part mem)
  have added : (completions stay).filter (fun part => Stays part) = completions stay :=
    List.filter_eq_self.2 fun part mem => decide_eq_true (stays_of_mem_completions mem)
  rw [additions_eq, List.filter_append, kept, List.filter_cons_of_neg (by simpa using goes), added,
    completed]

theorem missing_of_exists {name text : String} {attributes : List (List Char)}
    (found : ∃ part ∈ attributes, attributeName part = name.toList) :
    missing name text attributes = [] := if_pos found

theorem completions_completed (stay : List (List Char)) : completions (completed stay) = [] := by
  have path : ∃ part ∈ completed stay, attributeName part = "path".toList :=
    exists_named "path" "Path=/" rfl fun part new => by simp [completions, new]
  have site : ∃ part ∈ completed stay, attributeName part = "samesite".toList :=
    exists_named "samesite" "SameSite=None" rfl fun part new => by simp [completions, new]
  have secure : ∃ part ∈ completed stay, attributeName part = "secure".toList :=
    exists_named "secure" "Secure" rfl fun part new => by simp [completions, new]
  rw [completions, missing_of_exists path, missing_of_exists site, missing_of_exists secure]
  rfl

theorem stays_of_mem_completed (stays : ∀ part ∈ stay, Stays part) :
    ∀ part ∈ completed stay, Stays part := by
  intro part mem
  rcases List.mem_append.1 mem with inStay | added
  · exact stays part inStay
  · exact stays_of_mem_completions added

theorem completed_completed (stay : List (List Char)) :
    completed (completed stay) = completed stay := by
  rw [completed, completions_completed, List.append_nil]

section

variable (cut : segments cookie = first :: rest) (filled : first ≠ [])

include cut filled

theorem readdress_congr {other : String} {rest' : List (List Char)} (given : host ≠ "")
    (cut' : segments other = first :: rest')
    (same : rest.filter (fun part => Stays part) = rest'.filter fun part => Stays part) :
    readdress cookie host = readdress other host := by
  rw [readdress, readdress, readdressParts_eq_additions cut filled given _ same,
    readdressParts_eq_additions cut' filled given _ rfl]

theorem segments_readdress_twice {inner outer : String} (isInner : IsHost inner)
    (isOuter : IsHost outer) (each : ∀ part ∈ stay, Stays part)
    (stays : rest.filter (fun part => Stays part) = stay) :
    segments (readdress (readdress cookie inner) outer) =
      first :: (completed stay ++ additions outer (completed stay)) := by
  have once := segments_readdress cut filled isInner.given isInner.whole isInner.unpadded stays
  exact segments_readdress once filled isOuter.given isOuter.whole isOuter.unpadded
    (filter_stays_additions inner each)

/-- A cookie that comes through two servers is the cookie that comes through the outer one alone,
save the order of its attributes, and once more through the outer one it stays as it is. -/
theorem chain_hands_on_as_outer {inner outer : String} (isInner : IsHost inner)
    (isOuter : IsHost outer) :
    let chained := readdress (readdress cookie inner) outer
    let direct := readdress cookie outer
    (segments chained).head? = some first ∧ (segments direct).head? = some first ∧
    (segments chained).tail.Perm (segments direct).tail ∧
    readdress chained outer = chained := by
  intro chained direct
  have each : ∀ part ∈ rest.filter (fun part => Stays part), Stays part :=
    fun part mem => by simpa using (List.mem_filter.1 mem).2
  have alone := segments_readdress cut filled isOuter.given isOuter.whole isOuter.unpadded rfl
  have once := segments_readdress cut filled isInner.given isInner.whole isInner.unpadded rfl
  have both := segments_readdress_twice cut filled isInner isOuter each rfl
  refine ⟨congrArg List.head? both, congrArg List.head? alone, ?_, ?_⟩
  · rw [both, alone, List.tail_cons, List.tail_cons, additions_eq, completions_completed,
      additions_eq, completed, List.append_assoc]
    exact (List.perm_append_singleton _ _).append_left _
  · apply readdress_congr both filled isOuter.given once
    rw [filter_stays_additions outer (stays_of_mem_completed each), completed_completed,
      filter_stays_additions inner each]

end

theorem chain_hands_on_session :
    segments "sid=1; Path=/x; Domain=b; SameSite=Lax" =
      ["sid=1", "Path=/x", "Domain=b", "SameSite=Lax"].map String.toList ∧
    IsHost "inner.example" ∧ IsHost "h=1" ∧
    readdress (readdress "sid=1; Path=/x; Domain=b; SameSite=Lax" "inner.example") "h=1" =
      "sid=1; Path=/x; SameSite=None; Secure; Domain=h=1" ∧
    readdress "sid=1; Path=/x; SameSite=None; Secure; Domain=h=1" "h=1" =
      "sid=1; Path=/x; SameSite=None; Secure; Domain=h=1" := by
  have cut : segments "sid=1; Path=/x; Domain=b; SameSite=Lax" =
      ["sid=1", "Path=/x", "Domain=b", "SameSite=Lax"].map String.toList := by decide +kernel
  have isInner : IsHost "inner.example" := ⟨by decide, by decide, by decide⟩
  have isOuter : IsHost "h=1" := ⟨by decide, by decide, by decide⟩
  have chained : readdress (readdress "sid=1; Path=/x; Domain=b; SameSite=Lax" "inner.example")
      "h=1" = "sid=1; Path=/x; SameSite=None; Secure; Domain=h=1" := by decide +kernel
  have settled := (chain_hands_on_as_outer cut (by decide) isInner isOuter).2.2.2
  rw [chained] at settled
  exact ⟨cut, isInner, isOuter, chained, settled⟩

end RefData.Proxy.Cookie
