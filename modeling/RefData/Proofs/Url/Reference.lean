import RefData.Proofs.Url.Append
set_option autoImplicit false

namespace RefData.Url

variable {b : Url} {rest : List Char}

theorem clean_slash {text : String} (same : text.toList = '/' :: rest) :
    clean text = '/' :: cleanEnd rest :=
  clean_eq (by decide) (show text.toList = [] ++ '/' :: rest from same)

theorem join_slash {text : String} (rooted : b.isRootless = false)
    (cleaned : clean text = '/' :: rest) :
    b.join text =
      if b.scheme = "file" then parseFile (some b) ('/' :: rest)
      else parseRelative b ('/' :: rest) := by
  have noScheme : splitScheme? ('/' :: rest) = none := rfl
  simp only [join, resolve, cleaned, noScheme, rooted, beq_iff_eq]
  rfl

def namedHost? (rest : List Char) : Option (List Char) :=
  match rest with
  | d :: after =>
    if isAnySlash d then some (if d = '/' then after else after.dropWhile isAnySlash) else none
  | [] => none

theorem parseRelative_slash (b : Url) (rest : List Char) :
    parseRelative b ('/' :: rest) =
      match namedHost? rest with
      | some more => parseAuthority b.scheme more
      | none => .ok (underHost b [] rest) := by
  have noTail : resolveTail? b ('/' :: rest) = none := rfl
  cases rest with
  | nil => rfl
  | cons d after =>
    simp only [parseRelative, noTail, namedHost?]
    cases slash : isAnySlash d with
    | true =>
      simp only [isAnySlash] at slash
      simp only [slash, BEq.rfl, Bool.true_or, Bool.true_and, if_true, beq_iff_eq]
      rfl
    | false =>
      simp only [isAnySlash] at slash
      simp only [slash, BEq.rfl, Bool.true_or, if_true]
      rfl

def onDrive (b : Url) (rest : List Char) : Bool :=
  b.scheme == "file" && (startsWithDrive rest || b.segments.head?.any isNormalDrive)

theorem parseFile_slash (b : Url) (unnamed : namedHost? rest = none) :
    ∃ u, parseFile (some b) ('/' :: rest) = .ok u ∧ u.scheme = "file" ∧ u.portNumber = none ∧
      u.host = if startsWithDrive rest || b.segments.head?.any isNormalDrive then some (.domain "")
        else b.host := by
  have read : parseFile (some b) ('/' :: rest) = .ok (parseFile.fromRoot
      { scheme := "file", host := some (.domain ""), path := .rooted [""] } (some b) rest) := by
    cases rest with
    | nil => rfl
    | cons d after =>
      simp only [namedHost?] at unnamed
      have notSlash : isAnySlash d = false := by simpa using unnamed
      simp only [parseFile, notSlash, Bool.and_false]
      rfl
  refine ⟨_, read, ?_⟩
  rw [← Option.isSome_filter]
  by_cases drive : startsWithDrive rest = true
  · simp [parseFile.fromRoot, drive, underHost, withTail]
  · cases first : b.segments.head?.filter isNormalDrive with
    | some _ => simp [parseFile.fromRoot, drive, first, underHost, withTail]
    | none => simp [parseFile.fromRoot, drive, first, underHost, withTail]

-- A path takes the place of the address's own. Of the site only the host of a file can get lost.
theorem join_of_unnamed {text : String} (rooted : b.isRootless = false)
    (noPort : b.scheme = "file" → b.portNumber = none) (cleaned : clean text = '/' :: rest)
    (unnamed : namedHost? rest = none) :
    ∃ u, b.join text = .ok u ∧ u.scheme = b.scheme ∧ u.portNumber = b.portNumber ∧
      u.host = if onDrive b rest then some (.domain "") else b.host := by
  rw [join_slash rooted cleaned]
  by_cases isFile : b.scheme = "file"
  · obtain ⟨u, read, scheme, portNumber, host⟩ := parseFile_slash b unnamed
    rw [if_pos isFile, read]
    refine ⟨u, rfl, scheme.trans isFile.symm, portNumber.trans (noPort isFile).symm, ?_⟩
    rw [host, onDrive, isFile]
    rfl
  · have noDrive : onDrive b rest = false := by simp [onDrive, isFile]
    rw [if_neg isFile, parseRelative_slash, unnamed, noDrive]
    exact ⟨_, rfl, rfl, rfl, rfl⟩

theorem join_of_named {text : String} {more : List Char} (rooted : b.isRootless = false)
    (notFile : b.scheme ≠ "file") (cleaned : clean text = '/' :: rest)
    (named : namedHost? rest = some more) : b.join text = parseAuthority b.scheme more := by
  rw [join_slash rooted cleaned, if_neg notFile, parseRelative_slash, named]

end RefData.Url
