import Mathlib.Control.Monad.Basic
import RefData.Proofs.Settings.Base
import RefData.Proxy.Forward
set_option autoImplicit false

namespace RefData.Http.Target

theorem isPathChar_of_ofPath? {cs : List Char} {target : Target}
    (read : ofPath? cs = some target) : ∀ c ∈ target.path.toList, isPathChar c = true := by
  simp only [ofPath?, Option.ite_none_right_eq_some] at read
  obtain ⟨allowed, made⟩ := read
  cases made
  dsimp only
  split
  · simp [isPathChar]
  · rw [String.toList_ofList]
    exact List.all_eq_true.1 (Bool.and_eq_true_iff.1 allowed).1

theorem isPathChar_of_parse? {text : String} {target : Target}
    (read : parse? text = some target) : ∀ c ∈ target.path.toList, isPathChar c = true := by
  simp only [parse?] at read
  split at read
  · cases read
  · split at read
    · cases read
      simp [isPathChar]
    · split at read
      · exact isPathChar_of_ofPath? read
      · split at read
        · split at read
          · exact isPathChar_of_ofPath? read
          · cases read
        · split at read
          · cases read
            simp
          · cases read

end RefData.Http.Target

namespace RefData.Proxy

open Http Url

theorem of_mem_afterStep? {step path rest : List Char} (split : afterStep? step path = some rest) :
    rest ⊆ path := by
  simp only [afterStep?] at split
  split at split
  · split at split
    · cases split
      exact List.drop_subset _ _
    · cases split
  · cases split

theorem dropSlashes_subset (cs : List Char) : Settings.dropSlashes cs ⊆ cs :=
  (List.dropWhile_sublist _).subset

theorem of_mem_backendPath {path : String} {c : Char} (mem : c ∈ (backendPath path).toList) :
    c ∈ path.toList ∨ c ∈ "auth/".toList := by
  simp only [backendPath, String.toList_ofList] at mem
  split at mem
  next rest split => exact .inl (of_mem_afterStep? split (dropSlashes_subset _ mem))
  next =>
    split at mem
    next rest split =>
      rcases List.mem_append.1 mem with inStep | inRest
      · exact .inr inStep
      · exact .inl (of_mem_afterStep? split (dropSlashes_subset _ inRest))
    next => exact .inl (dropSlashes_subset _ mem)

def forwarded (path : String) : List Char :=
  Settings.dropSlashes (Text.trimChars (backendPath path).toList)

theorem isPathChar_forwarded {path : String}
    (allowed : ∀ c ∈ path.toList, Target.isPathChar c = true) :
    ∀ c ∈ forwarded path, Target.isPathChar c = true := by
  have allowedStep : ∀ c ∈ "auth/".toList, Target.isPathChar c = true := by
    simp [Target.isPathChar]
  intro c mem
  rcases of_mem_backendPath (Text.mem_of_mem_trimChars (dropSlashes_subset _ mem)) with
    inPath | inStep
  · exact allowed c inPath
  · exact allowedStep c inStep

def forwardedSteps (path : String) : List Char :=
  if forwarded path = [] then [] else '/' :: forwarded path

def forwardedQuery (query : Option String) : List Char :=
  match query.filter fun q => !q.isEmpty with
  | some q => '?' :: q.toList
  | none => []

theorem toList_backendUrl {base : String} (unfinished : base.toList.getLast? ≠ some '/')
    (path : String) (query : Option String) :
    (backendUrl base path query).toList =
      base.toList ++ (forwardedSteps path ++ forwardedQuery query) := by
  have whole : Settings.dropEndSlashes base.toList = base.toList := by
    apply Text.dropEndWhile_eq_self
    intro c last
    exact beq_false_of_ne fun same => unfinished (same ▸ last)
  have target : (Settings.joinUrl base (backendPath path)).toList =
      base.toList ++ forwardedSteps path := by
    simp only [Settings.joinUrl, whole, String.toList_ofList, forwardedSteps, forwarded,
      List.isEmpty_iff]
    by_cases empty : Settings.dropSlashes (Text.trimChars (backendPath path).toList) = [] <;>
      simp [empty]
  simp only [backendUrl, forwardedQuery]
  cases query.filter fun q => !q.isEmpty <;> simp [target]

theorem isPathChar_forwardedSteps {path : String}
    (allowed : ∀ c ∈ path.toList, Target.isPathChar c = true) :
    ∀ c ∈ forwardedSteps path, Target.isPathChar c = true := by
  unfold forwardedSteps
  split
  · simp
  · rw [List.forall_mem_cons]
    exact ⟨by decide, isPathChar_forwarded allowed⟩

theorem of_isPathChar {c : Char} (allowed : Target.isPathChar c = true) :
    0x20 < c.toNat ∧ c ≠ '?' ∧ c ≠ '#' := by
  simp only [Target.isPathChar, List.mem_cons, not_or, Bool.and_eq_true, decide_eq_true_eq] at allowed
  exact ⟨allowed.1, allowed.2.2.2.2.1, allowed.2.1⟩

-- Cleaning takes nothing from the path, and a query still starts with its mark.
theorem cleanEnd_forwarded {path : String}
    (allowed : ∀ c ∈ path.toList, Target.isPathChar c = true) (query : Option String) :
    ∃ tail, cleanEnd (forwardedSteps path ++ forwardedQuery query) = forwardedSteps path ++ tail ∧
      IsAddition (forwardedSteps path) tail := by
  have each (c : Char) (mem : c ∈ forwardedSteps path) : 0x20 < c.toNat ∧ c ≠ '?' ∧ c ≠ '#' :=
    of_isPathChar (isPathChar_forwardedSteps allowed c mem)
  have visible : ∀ c ∈ forwardedSteps path, 0x20 < c.toNat := fun c mem => (each c mem).1
  have clear : Clear (forwardedSteps path) := fun c mem => (each c mem).2
  have stepped (c : Char) (first : (forwardedSteps path).head? = some c) : c = '/' := by
    unfold forwardedSteps at first
    split at first
    · cases first
    · exact (Option.some.inj first).symm
  unfold forwardedQuery
  split
  next q _ =>
    refine ⟨'?' :: cleanEnd q.toList, cleanEnd_append_cons visible (by decide) _, clear, stepped, ?_⟩
    intro c first
    exact (Option.some.inj first).symm
  next =>
    refine ⟨[], ?_, clear, stepped, by simp⟩
    rw [List.append_nil]
    exact cleanEnd_eq_self visible

theorem isWithin_of_continues {scheme path : String} {b u : Url}
    (continues : Continues scheme (forwardedSteps path) b u)
    (stays : climbs 0 (writtenSegments scheme (forwarded path)) = false) :
    IsWithin b.pathText u.pathText := by
  obtain ⟨front, atBase, atTarget⟩ := continues.path
  simp only [pathText, atBase, atTarget, forwardedSteps]
  split
  · rw [List.append_nil]
    exact .inl rfl
  · exact isWithin_pathBehind stays front

theorem isWithin_of_fileContinues {path : String} {b u : Url}
    (continues : FileContinues (forwardedSteps path) b u)
    (stays : climbs 0 (writtenSegments "file" (forwarded path)) = false) :
    IsWithin b.pathText u.pathText := by
  cases continues with
  | root path filled atBase atTarget =>
    simp only [pathText, atBase, atTarget]
    exact isWithin_root filled
  | under front atBase atTarget =>
    simp only [pathText, atBase, atTarget, forwardedSteps]
    split
    · rw [List.append_nil]
      exact .inl rfl
    · exact isWithin_filePath stays front

/-- A request is forwarded to an address with the scheme of the backend's own, and but for files
with its host and number too. As long as the dots of the path do not climb above where the path
starts, it stays within the path of the backend. -/
theorem requests_stay_with_backend {raw base text : String} {target : Target}
    (accepted : Settings.normalizeBase raw = .ok base) (clear : Clear base.toList)
    (ends : ∀ c, base.toList.getLast? = some c → 0x20 < c.toNat)
    (asked : Target.parse? text = some target) (query : Option String) :
    ∃ b, Url.parse base = .ok b ∧
      (isSpecial b.scheme = true → b.scheme ≠ "file" →
        ∃ u, Url.parse (backendUrl base target.path query) = .ok u) ∧
      ∀ u, Url.parse (backendUrl base target.path query) = .ok u →
        u.scheme = b.scheme ∧
        (b.scheme ≠ "file" → u.host = b.host ∧ u.portNumber = b.portNumber) ∧
        (climbs 0 (writtenSegments b.scheme (forwarded target.path)) = false →
          IsWithin b.pathText u.pathText) := by
  obtain ⟨unfinished, b, read, rooted⟩ := Settings.of_normalizeBase accepted
  obtain ⟨last, isLast⟩ : ∃ last, base.toList.getLast? = some last := by
    cases found : base.toList.getLast? with
    | some last => exact ⟨last, rfl⟩
    | none => exact absurd (List.getLast?_eq_none_iff.1 found) (toList_ne_nil_of_parse read)
  have allowed := Target.isPathChar_of_parse? asked
  obtain ⟨tail, left, added⟩ := cleanEnd_forwarded allowed query
  obtain ⟨found, kept⟩ := parse_append isLast (ends last isLast)
    (fun same => unfinished (same ▸ isLast)) (toList_backendUrl unfinished target.path query) left
    clear added read rooted
  refine ⟨b, read, found, fun u readOn => ?_⟩
  obtain ⟨sameScheme, continues, fileContinues⟩ := kept u readOn
  refine ⟨sameScheme, fun notFile => ?_, fun stays => ?_⟩
  · exact ⟨(continues notFile).host, (continues notFile).portNumber⟩
  · by_cases isFile : b.scheme = "file"
    · exact isWithin_of_fileContinues (fileContinues isFile) (isFile ▸ stays)
    · exact isWithin_of_continues (continues isFile) stays

theorem requests_stay_with_backend_below_dots :
    Settings.normalizeBase "http://b/base/" = .ok "http://b/base" ∧
      Target.parse? "/api/a/../c" = some { path := "/api/a/../c" } ∧
      ∃ b u, Url.parse "http://b/base" = .ok b ∧
        Url.parse (backendUrl "http://b/base" "/api/a/../c" none) = .ok u ∧
        u.scheme = b.scheme ∧ u.host = b.host ∧ u.portNumber = b.portNumber ∧
        IsWithin b.pathText u.pathText := by
  have accepted : Settings.normalizeBase "http://b/base/" = .ok "http://b/base" := by
    decide +kernel
  have asked : Target.parse? "/api/a/../c" = some { path := "/api/a/../c" } := by decide +kernel
  obtain ⟨b, read, found, kept⟩ := requests_stay_with_backend accepted (by simp [Clear]) (by simp)
    asked none
  have isHttp : (Url.parse "http://b/base").toOption.map Url.scheme = some "http" := by
    decide +kernel
  have scheme : b.scheme = "http" := by simpa [read, Except.toOption] using isHttp
  obtain ⟨u, readOn⟩ := found (by rw [scheme]; decide) (by rw [scheme]; decide)
  obtain ⟨sameScheme, here, within⟩ := kept u readOn
  obtain ⟨host, portNumber⟩ := here (by rw [scheme]; decide)
  exact ⟨accepted, asked, b, u, read, readOn, sameScheme, host, portNumber,
    within (by rw [scheme]; decide +kernel)⟩

structure Escapes (base path : String) (b u : Url) : Prop where
  accepted : Settings.normalizeBase base = .ok base
  clear : ∀ c ∈ base.toList, c ≠ '?' ∧ c ≠ '#'
  asked : Target.parse? path = some { path := path }
  routed : routeOf path = .forward
  read : Url.parse base = .ok b
  readOn : Url.parse (backendUrl base path none) = .ok u
  leaves : ¬ (u.scheme = b.scheme ∧ u.host = b.host ∧ u.portNumber = b.portNumber ∧
    IsWithin b.pathText u.pathText)

-- Two dots lead above the backend's path. A control character at the end of its address is dropped
-- when it is read alone, and kept before a path. A drive takes the place of the host of a file.
theorem requests_can_leave_backend :
    Escapes "http://b/base" "/api/../x"
      { scheme := "http", host := some (.domain "b"), path := .rooted ["base"] }
      { scheme := "http", host := some (.domain "b"), path := .rooted ["x"] } ∧
    Escapes "http://b/base\x01" "/api/x"
      { scheme := "http", host := some (.domain "b"), path := .rooted ["base"] }
      { scheme := "http", host := some (.domain "b"), path := .rooted ["base%01", "x"] } ∧
    Escapes "file://h" "/api/C:/x"
      { scheme := "file", host := some (.domain "h"), path := .rooted [""] }
      { scheme := "file", host := some (.domain ""), path := .rooted ["C:", "x"] } := by
  refine ⟨?dots, ?control, ?drive⟩
  all_goals
    constructor
    case clear => simp
    all_goals decide +kernel

end RefData.Proxy
