import RefData.Proofs.Text
import RefData.Url.Address
set_option autoImplicit false

namespace RefData.Url

theorem of_map_eq_ok {α β : Type} {result : Except Fault α} {f : α → β} {value : β}
    (mapped : result.map f = .ok value) : ∃ inner, result = .ok inner ∧ f inner = value := by
  cases result with
  | error fault => cases mapped
  | ok inner => exact ⟨inner, rfl, Except.ok.inj mapped⟩

theorem of_bind_eq_ok {α β : Type} {first : Except Fault α} {rest : α → Except Fault β} {value : β}
    (bound : first >>= rest = .ok value) : ∃ inner, first = .ok inner ∧ rest inner = .ok value := by
  cases first with
  | error fault => cases bound
  | ok inner => exact ⟨inner, rfl, bound⟩

variable {scheme : String} {text : List Char} {a : Authority}

theorem readHostPort_host {user hostPort : List Char} (special : isSpecial scheme = true)
    (read : readHostPort scheme user hostPort = .ok a) :
    hostPort ≠ [] ∧ ∃ hostText, parseHost hostText = .ok a.host := by
  simp only [readHostPort, readHost, special, if_true] at read
  split at read
  · cases read
  next present =>
    obtain ⟨host, found, read⟩ := of_bind_eq_ok read
    split at read
    · cases read
    · obtain ⟨number, _, made⟩ := of_bind_eq_ok read
      cases made
      refine ⟨?_, _, found⟩
      rintro rfl
      simp [splitPort] at present

theorem readAuthority_host {alone : Bool} (special : isSpecial scheme = true)
    (read : readAuthority scheme text alone = .ok a) :
    ∃ hostText, parseHost hostText = .ok a.host := by
  unfold readAuthority at read
  split at read
  · split at read
    · cases read
    · exact (readHostPort_host special read).2
  · exact (readHostPort_host special read).2

-- Only an authority of an at sign alone is read in another way when something follows.

theorem readAuthority_of_followed (read : readAuthority scheme text false = .ok a) :
    readAuthority scheme text true = .ok a := by
  unfold readAuthority at read ⊢
  split
  next user hostPort split =>
    simp only [split] at read
    split at read
    · cases read
    · simpa using read
  next split =>
    simpa only [split] using read

theorem readAuthority_alone {alone : Bool} (read : readAuthority scheme text alone = .ok a) :
    readAuthority scheme text true = .ok a := by
  cases alone with
  | false => exact readAuthority_of_followed read
  | true => exact read

theorem readAuthority_of_special {alone : Bool} (special : isSpecial scheme = true)
    (read : readAuthority scheme text alone = .ok a) : readAuthority scheme text false = .ok a := by
  unfold readAuthority at read ⊢
  split
  next user hostPort split =>
    simp only [split] at read
    split at read
    · cases read
    · have present : hostPort ≠ [] := (readHostPort_host special read).1
      simpa [present] using read
  next split =>
    simpa only [split] using read

def authorityText (scheme : String) (cs : List Char) : List Char :=
  cs.takeWhile fun c => !endsAuthority (isSpecial scheme) c

def behindAuthority (scheme : String) (cs : List Char) : List Char :=
  cs.dropWhile fun c => !endsAuthority (isSpecial scheme) c

def Authority.address (a : Authority) (scheme : String) (behind : List Char) : Url :=
  let (pathText, query, fragment) := splitTail (a.more ++ behind)
  withTail
    { scheme := scheme, username := a.username, password := a.password
      host := some a.host, portNumber := a.portNumber
      path := .rooted (pathBehind scheme pathText) } query fragment

theorem Authority.address_path (a : Authority) (scheme : String) (behind : List Char) :
    (a.address scheme behind).path =
      .rooted (pathBehind scheme (splitTail (a.more ++ behind)).1) := rfl

theorem parseAuthority_eq_ok_iff {cs : List Char} {u : Url} :
    parseAuthority scheme cs = .ok u ↔
      ∃ a, readAuthority scheme (authorityText scheme cs) (behindAuthority scheme cs).isEmpty =
        .ok a ∧ a.address scheme (behindAuthority scheme cs) = u := by
  constructor
  · intro read
    obtain ⟨a, found, made⟩ := of_bind_eq_ok read
    exact ⟨a, found, Except.ok.inj made⟩
  · rintro ⟨a, found, rfl⟩
    change (readAuthority scheme _ _ >>= _) = _
    rw [authorityText, behindAuthority] at found
    rw [found]
    rfl

def parseBehind (scheme : String) (cs : List Char) : Except Fault Url :=
  if scheme = "file" then parseFile none cs
  else if isSpecial scheme then parseAuthority scheme (cs.dropWhile isAnySlash)
  else parseOther scheme cs

theorem parse_eq (text : String) :
    parse text = match splitScheme? (clean text) with
      | some (scheme, rest) => parseBehind scheme rest
      | none => .error .noBase := by
  simp only [parse, resolve]
  cases splitScheme? (clean text) with
  | none => rfl
  | some divided =>
    simp only [parseBehind, beq_iff_eq, Option.filter_none, Text.drop_length_takeWhile]
    rfl

theorem parse_eq_ok_iff {text : String} {u : Url} :
    parse text = .ok u ↔ ∃ scheme rest, splitScheme? (clean text) = some (scheme, rest) ∧
      parseBehind scheme rest = .ok u := by
  rw [parse_eq]
  cases splitScheme? (clean text) with
  | none => simp
  | some divided =>
    obtain ⟨scheme, rest⟩ := divided
    simp

theorem exists_underHost_of_parseFile {cs : List Char} {u : Url}
    (read : parseFile none cs = .ok u) :
    ∃ host rest, u =
      underHost { scheme := "file", host := some host, path := .rooted [""] } [] rest := by
  unfold parseFile at read
  split at read
  · split at read
    · obtain ⟨⟨host, rest⟩, _, made⟩ := of_bind_eq_ok read
      cases made
      unfold parseFile.onHost
      split
      · exact ⟨host, rest, rfl⟩
      · dsimp only
        generalize (if rest.head?.any isAnySlash = true then rest.drop 1 else rest) = more
        split
        · exact ⟨.domain "", _, rfl⟩
        · exact ⟨host, _, rfl⟩
    · split at read <;> cases read <;> exact ⟨.domain "", _, rfl⟩
  · split at read <;> cases read <;> exact ⟨.domain "", _, rfl⟩
  · cases read
    exact ⟨.domain "", _, rfl⟩

theorem parseFile_scheme {cs : List Char} {u : Url} (read : parseFile none cs = .ok u) :
    u.scheme = "file" := by
  obtain ⟨host, rest, rfl⟩ := exists_underHost_of_parseFile read
  rfl

theorem parseOther_scheme {cs : List Char} {u : Url} (read : parseOther scheme cs = .ok u) :
    u.scheme = scheme := by
  unfold parseOther at read
  split at read
  · obtain ⟨a, _, rfl⟩ := parseAuthority_eq_ok_iff.1 read
    rfl
  · cases read
    rfl
  · cases read
    rfl

theorem parseBehind_scheme {cs : List Char} {u : Url} (read : parseBehind scheme cs = .ok u) :
    u.scheme = scheme := by
  unfold parseBehind at read
  split at read
  next isFile => exact isFile ▸ parseFile_scheme read
  next =>
    split at read
    · obtain ⟨a, _, rfl⟩ := parseAuthority_eq_ok_iff.1 read
      rfl
    · exact parseOther_scheme read

theorem portNumber_of_file {text : String} {u : Url} (read : parse text = .ok u)
    (isFile : u.scheme = "file") : u.portNumber = none := by
  obtain ⟨scheme, rest, _, read⟩ := parse_eq_ok_iff.1 read
  have same : scheme = "file" := (parseBehind_scheme read).symm.trans isFile
  rw [parseBehind, if_pos same] at read
  obtain ⟨host, rest, rfl⟩ := exists_underHost_of_parseFile read
  rfl

end RefData.Url
