import RefData.Proofs.Settings.Base
import RefData.Proofs.Url.Reference
set_option autoImplicit false

namespace RefData.Settings

open Url

variable {raw base path : String}

theorem exists_rootedLogin (path : String) : ∃ rest, (rootedLogin path).toList = '/' :: rest := by
  unfold rootedLogin
  split
  · exact ⟨_, rfl⟩
  · split
    next slash =>
      cases chars : path.toList with
      | nil => simp [chars] at slash
      | cons c rest =>
        rw [chars] at slash
        cases slash
        exact ⟨rest, rfl⟩
    next => exact ⟨path.toList, by simp⟩

def loginSteps (path : String) : List Char := (clean (rootedLogin (Text.trim path))).tail

theorem clean_rootedLogin (path : String) :
    clean (rootedLogin (Text.trim path)) = '/' :: loginSteps path := by
  obtain ⟨rest, rooted⟩ := exists_rootedLogin (Text.trim path)
  rw [loginSteps, clean_slash rooted]
  rfl

def IsRelative (path : String) : Prop :=
  ∀ u, Url.parse (Text.trim path) = .ok u → u.isRootless = true

theorem loginUrl_eq_ok_iff {b : Url} (relative : IsRelative path) (read : Url.parse base = .ok b)
    {text : String} :
    loginUrl base path = .ok text ↔
      ∃ u, b.join (rootedLogin (Text.trim path)) = .ok u ∧ u.text = text := by
  have notWhole : (Url.parse (Text.trim path)).toOption.filter (fun u => !u.isRootless) = none := by
    cases parsed : Url.parse (Text.trim path) with
    | error fault => rfl
    | ok u => simp [Except.toOption, Option.filter, relative u parsed]
  unfold loginUrl
  dsimp only
  rw [notWhole, read]
  dsimp only
  cases b.join (rootedLogin (Text.trim path)) with
  | error fault => simp
  | ok u => simp

-- The login goes to an address of the backend's scheme, with the given host and number.
def LoginAt (base path : String) (b : Url) (host : Option Host) (portNumber : Option Nat) : Prop :=
  ∃ u, b.join (rootedLogin (Text.trim path)) = .ok u ∧ loginUrl base path = .ok u.text ∧
    u.scheme = b.scheme ∧ u.host = host ∧ u.portNumber = portNumber

section

variable {b : Url} (read : Url.parse base = .ok b) (rooted : b.isRootless = false)
  (relative : IsRelative path)

include read rooted relative

theorem loginAt_of_unnamed (unnamed : namedHost? (loginSteps path) = none) :
    LoginAt base path b (if onDrive b (loginSteps path) then some (.domain "") else b.host)
      b.portNumber := by
  obtain ⟨u, joined, scheme, portNumber, host⟩ := join_of_unnamed rooted (portNumber_of_file read)
    (clean_rootedLogin path) unnamed
  exact ⟨u, joined, (loginUrl_eq_ok_iff relative read).2 ⟨u, joined, rfl⟩, scheme, host, portNumber⟩

variable {more : List Char} (named : namedHost? (loginSteps path) = some more)
  (notFile : b.scheme ≠ "file")

include named notFile

theorem loginAt_of_named {a : Authority}
    (found : readAuthority b.scheme (authorityText b.scheme more)
      (behindAuthority b.scheme more).isEmpty = .ok a) :
    LoginAt base path b (some a.host) a.portNumber := by
  have joined : b.join (rootedLogin (Text.trim path)) =
      .ok (a.address b.scheme (behindAuthority b.scheme more)) := by
    rw [join_of_named rooted notFile (clean_rootedLogin path) named]
    exact parseAuthority_eq_ok_iff.2 ⟨a, found, rfl⟩
  exact ⟨_, joined, (loginUrl_eq_ok_iff relative read).2 ⟨_, joined, rfl⟩, rfl, rfl, rfl⟩

theorem loginUrl_ne_ok_of_named {fault : Fault}
    (failed : readAuthority b.scheme (authorityText b.scheme more)
      (behindAuthority b.scheme more).isEmpty = .error fault) (text : String) :
    loginUrl base path ≠ .ok text := by
  rw [Ne, loginUrl_eq_ok_iff relative read,
    join_of_named rooted notFile (clean_rootedLogin path) named]
  rintro ⟨u, joined, -⟩
  obtain ⟨a, found, -⟩ := parseAuthority_eq_ok_iff.1 joined
  rw [failed] at found
  cases found

end

/-- The login goes to the scheme, the host and the number of the backend's address as long as its
path names no host of its own; of a file with a drive alone the host gets lost. A second slash or a
backslash behind the first slash leads to such a host, and then the login goes there. -/
theorem login_stays_unless_host_named (accepted : normalizeBase raw = .ok base)
    (relative : IsRelative path) :
    ∃ b, Url.parse base = .ok b ∧
      match namedHost? (loginSteps path) with
      | none => LoginAt base path b
          (if onDrive b (loginSteps path) then some (.domain "") else b.host) b.portNumber
      | some more => b.scheme ≠ "file" →
          match readAuthority b.scheme (authorityText b.scheme more)
            (behindAuthority b.scheme more).isEmpty with
          | .ok a => LoginAt base path b (some a.host) a.portNumber
          | .error _ => ∀ text, loginUrl base path ≠ .ok text := by
  obtain ⟨-, b, read, rooted⟩ := of_normalizeBase accepted
  refine ⟨b, read, ?_⟩
  split
  next unnamed => exact loginAt_of_unnamed read rooted relative unnamed
  next more named =>
    intro notFile
    split
    next a found => exact loginAt_of_named read rooted relative named notFile found
    next fault failed => exact loginUrl_ne_ok_of_named read rooted relative named notFile failed

theorem login_stays_for_mail_address :
    normalizeBase "http://h:81/api/" = .ok "http://h:81/api" ∧ IsRelative "mailto:a@b" ∧
      ∃ b, Url.parse "http://h:81/api" = .ok b ∧
        LoginAt "http://h:81/api" "mailto:a@b" b b.host b.portNumber := by
  have accepted : normalizeBase "http://h:81/api/" = .ok "http://h:81/api" := by decide +kernel
  have relative : IsRelative "mailto:a@b" := by
    have parsed : (Url.parse (Text.trim "mailto:a@b")).toOption.all Url.isRootless = true := by
      decide +kernel
    intro u read
    rw [read] at parsed
    exact parsed
  obtain ⟨b, read, goes⟩ := login_stays_unless_host_named accepted relative
  have unnamed : namedHost? (loginSteps "mailto:a@b") = none := by decide +kernel
  have web : (Url.parse "http://h:81/api").toOption.map Url.scheme = some "http" := by
    decide +kernel
  have scheme : b.scheme = "http" := by
    rw [read] at web
    exact Option.some.inj web
  have noDrive : onDrive b (loginSteps "mailto:a@b") = false := by simp [onDrive, scheme]
  simp only [unnamed, noDrive] at goes
  exact ⟨accepted, relative, b, read, goes⟩

structure Strays (base path text : String) (b u : Url) : Prop where
  accepted : normalizeBase base = .ok base
  relative : Url.parse (Text.trim path) = .error .noBase
  read : Url.parse base = .ok b
  resolved : loginUrl base path = .ok text
  readOn : Url.parse text = .ok u
  leaves : ¬ (u.scheme = b.scheme ∧ u.host = b.host ∧ u.portNumber = b.portNumber)

-- Two slashes, a backslash and a tab between slashes lead to a host, and a drive takes its place.
theorem login_can_leave_site :
    Strays "http://h/api" "//o:81/login" "http://o:81/login"
      { scheme := "http", host := some (.domain "h"), path := .rooted ["api"] }
      { scheme := "http", host := some (.domain "o"), portNumber := some 81,
        path := .rooted ["login"] } ∧
    Strays "http://h/api" "\\o" "http://o/"
      { scheme := "http", host := some (.domain "h"), path := .rooted ["api"] }
      { scheme := "http", host := some (.domain "o"), path := .rooted [""] } ∧
    Strays "http://h/api" "/\t/o" "http://o/"
      { scheme := "http", host := some (.domain "h"), path := .rooted ["api"] }
      { scheme := "http", host := some (.domain "o"), path := .rooted [""] } ∧
    Strays "file://h/a" "/C:/x" "file:///C:/x"
      { scheme := "file", host := some (.domain "h"), path := .rooted ["a"] }
      { scheme := "file", host := some (.domain ""), path := .rooted ["C:", "x"] } := by
  refine ⟨?slashes, ?backslash, ?tab, ?drive⟩
  all_goals
    constructor
    all_goals decide +kernel

end RefData.Settings
