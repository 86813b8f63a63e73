import RefData.Proofs.Text
import RefData.Proxy.Forward
set_option autoImplicit false

namespace RefData.Settings

def below (path : String) : List Char := dropSlashes (Text.trimChars path.toList)

def steps (path : String) : List Char := if below path = [] then [] else '/' :: below path

theorem toList_joinUrl (base path : String) :
    (joinUrl base path).toList = dropEndSlashes base.toList ++ steps path := by
  rw [joinUrl, String.toList_ofList, steps]
  change (if (below path).isEmpty then _ else _ ++ '/' :: below path) = _
  by_cases none : below path = [] <;> simp [none]

theorem joinUrl_append {step : String} (filled : step.toList ≠ [])
    (unfinished : step.toList.getLast? ≠ some '/') (base path : String) :
    joinUrl (base ++ step) path = base ++ joinUrl step path := by
  have kept : ∀ cs : List Char, dropEndSlashes (cs ++ step.toList) = cs ++ step.toList := by
    intro cs
    apply Text.dropEndWhile_eq_self
    intro c last
    rw [List.getLast?_append_of_ne_nil _ filled] at last
    exact beq_false_of_ne fun slash => unfinished (slash ▸ last)
  have alone : dropEndSlashes step.toList = step.toList := kept []
  rw [← String.toList_inj, String.toList_append, toList_joinUrl, toList_joinUrl, alone,
    String.toList_append, kept, List.append_assoc]

theorem dropSlashes_below (path : String) : dropSlashes (below path) = below path :=
  List.dropWhile_eq_self_iff.2 (List.dropWhile_get_zero_not _ _)

-- White space inside a path could come to its start when slashes are dropped, and be dropped with
-- more slashes when the rest is joined again.
theorem below_ofList_below {path : String} (solid : ∀ c ∈ path.toList, Text.isBlank c = false) :
    below (String.ofList (below path)) = below path := by
  have inside : ∀ c ∈ below path, Text.isBlank c = false := fun c mem =>
    solid c (Text.mem_of_mem_trimChars ((List.dropWhile_sublist _).subset mem))
  rw [below, String.toList_ofList, Text.trimChars_of_unpadded (Text.unpadded_of_forall inside),
    dropSlashes_below]

theorem dropSlashes_steps (path : String) : dropSlashes (steps path) = below path := by
  rw [steps]
  split
  next none => rw [none]; rfl
  next => exact dropSlashes_below path

theorem joinUrl_congr {base path other : String} (same : below path = below other) :
    joinUrl base path = joinUrl base other := by
  rw [← String.toList_inj, toList_joinUrl, toList_joinUrl, steps, steps, same]

end RefData.Settings

namespace RefData.Proxy

open Settings

theorem afterStep?_append {step rest : List Char}
    (ends : rest = [] ∨ rest.head? = some '/') : afterStep? step (step ++ rest) = some rest := by
  have here : step.isPrefixOf (step ++ rest) = true :=
    List.isPrefixOf_iff_prefix.2 (List.prefix_append step rest)
  rw [afterStep?, if_pos here, List.drop_left]
  rcases ends with rfl | slash
  · rfl
  · simp [slash]

theorem afterStep?_joinUrl_api (path : String) :
    afterStep? "/api".toList (joinUrl "/api" path).toList = some (steps path) := by
  have whole : (joinUrl "/api" path).toList = "/api".toList ++ steps path :=
    toList_joinUrl "/api" path
  rw [whole]
  apply afterStep?_append
  rw [steps]
  split
  · exact .inl rfl
  · exact .inr rfl

theorem backendPath_joinUrl_api (path : String) :
    backendPath (joinUrl "/api" path) = String.ofList (below path) := by
  simp only [backendPath, afterStep?_joinUrl_api, dropSlashes_steps]

theorem routeOf_joinUrl_api (path : String) : routeOf (joinUrl "/api" path) = .forward := by
  simp only [routeOf, afterStep?_joinUrl_api]
  by_cases none : below path = []
  · have whole : joinUrl "/api" path = "/api" := by
      rw [← String.toList_inj, toList_joinUrl, steps, if_pos none]
      rfl
    simp [whole]
  · have long : 0 < (below path).length := List.length_pos_of_ne_nil none
    simp [steps, none, long]

/-- A client that is set to this server, below `/api`, reaches what it would reach on the backend
itself: what it asks for here is forwarded, to the address that it would join to the backend's own,
and a query goes along. -/
theorem passage_reaches_same_resource (backend proxy path : String)
    (solid : ∀ c ∈ path.toList, Text.isBlank c = false) :
    ∃ here, joinUrl (proxy ++ "/api") path = proxy ++ here ∧
      routeOf here = .forward ∧
      backendUrl backend here none = joinUrl backend path ∧
      ∀ query, query ≠ "" →
        backendUrl backend here (some query) = joinUrl backend path ++ "?" ++ query := by
  have target : joinUrl backend (backendPath (joinUrl "/api" path)) = joinUrl backend path := by
    rw [backendPath_joinUrl_api]
    exact joinUrl_congr (below_ofList_below solid)
  refine ⟨joinUrl "/api" path, joinUrl_append (by decide) (by decide) proxy path,
    routeOf_joinUrl_api path, target, fun query given => ?_⟩
  have filled : query.isEmpty = false := by simpa using given
  simp only [backendUrl, target, Option.filter_some, filled]
  rfl

theorem passage_reaches_step_named_api :
    joinUrl ("http://p" ++ "/api") "//api/auth/" = "http://p" ++ "/api/api/auth/" ∧
    backendUrl "http://b/base//" "/api/api/auth/" (some "a=1") = "http://b/base/api/auth/?a=1" := by
  have solid : ∀ c ∈ "//api/auth/".toList, Text.isBlank c = false := by
    simp
    decide
  obtain ⟨here, joined, -, -, queried⟩ := passage_reaches_same_resource "http://b/base//" "http://p"
    "//api/auth/" solid
  have direct : joinUrl ("http://p" ++ "/api") "//api/auth/" = "http://p" ++ "/api/api/auth/" := by
    decide +kernel
  have same : here = "/api/api/auth/" := by
    rw [direct] at joined
    exact (String.append_right_inj "http://p").1 joined.symm
  have reached := queried "a=1" (by decide)
  rw [same] at reached
  exact ⟨direct, reached.trans (by decide +kernel)⟩

end RefData.Proxy
