import RefData.Proofs.Url.Path
set_option autoImplicit false

namespace RefData.Url

variable {scheme : String}

theorem splitPort_subset {inBrackets : Bool} {cs number : List Char}
    (split : (splitPort inBrackets cs).2 = some number) : number ⊆ cs := by
  induction cs generalizing inBrackets with
  | nil => cases split
  | cons c rest ih =>
    simp only [splitPort] at split
    split at split
    · cases split
      exact List.subset_cons_self c _
    · exact List.subset_cons_of_subset c (ih split)

theorem readHostPort_more {user hostPort : List Char} {a : Authority}
    (read : readHostPort scheme user hostPort = .ok a) : a.more ⊆ hostPort := by
  simp only [readHostPort] at read
  split at read
  · cases read
  · obtain ⟨host, _, read⟩ := of_bind_eq_ok read
    split at read
    · cases read
    · obtain ⟨number, _, made⟩ := of_bind_eq_ok read
      cases made
      simp only [List.span_eq_takeWhile_dropWhile]
      cases split : (splitPort false hostPort).2 with
      | none => simp
      | some number =>
        exact List.Subset.trans (List.dropWhile_sublist _).subset (splitPort_subset split)

theorem readAuthority_more {text : List Char} {alone : Bool} {a : Authority}
    (read : readAuthority scheme text alone = .ok a) : a.more ⊆ text := by
  unfold readAuthority at read
  split at read
  next user hostPort split =>
    split at read
    · cases read
    · have behind : hostPort ⊆ text := by
        rw [Text.splitLast?_eq split]
        exact List.subset_append_of_subset_right user (List.subset_cons_self _ _)
      exact List.Subset.trans (readHostPort_more read) behind
  next => exact readHostPort_more read

structure Continues (scheme : String) (steps : List Char) (b u : Url) : Prop where
  host : u.host = b.host
  portNumber : u.portNumber = b.portNumber
  path : ∃ front, b.path = .rooted (pathBehind scheme front) ∧
    u.path = .rooted (pathBehind scheme (front ++ steps))

def Clear (cs : List Char) : Prop := ∀ c ∈ cs, c ≠ '?' ∧ c ≠ '#'

theorem Clear.of_subset {cs ds : List Char} (clear : Clear ds) (within : cs ⊆ ds) : Clear cs :=
  fun c mem => clear c (within mem)

theorem Clear.append {cs ds : List Char} (first : Clear cs) (second : Clear ds) :
    Clear (cs ++ ds) := by
  intro c mem
  exact (List.mem_append.1 mem).elim (first c) (second c)

structure IsAddition (steps tail : List Char) : Prop where
  clear : Clear steps
  stepped : ∀ c, steps.head? = some c → c = '/'
  queried : ∀ c, tail.head? = some c → c = '?'

variable {cs steps tail : List Char} {b : Url}

theorem IsAddition.first (added : IsAddition steps tail) {c : Char}
    (first : (steps ++ tail).head? = some c) : c = '/' ∨ c = '?' := by
  cases steps with
  | nil => exact .inr (added.queried c first)
  | cons d rest => exact .inl (added.stepped c first)

theorem splitTail_fst (clear : Clear cs) (queried : ∀ c, tail.head? = some c → c = '?') :
    (splitTail (cs ++ tail)).1 = cs := by
  have noFragment : ∀ c ∈ cs, (c != '#') = true := fun c mem => by simpa using (clear c mem).2
  have noQuery : ∀ c ∈ cs, (c != '?') = true := fun c mem => by simpa using (clear c mem).1
  have ends : (tail.takeWhile (· != '#')).takeWhile (· != '?') = [] := by
    cases tail with
    | nil => rfl
    | cons c rest => simp [queried c rfl]
  simp only [splitTail, List.takeWhile_append_of_pos noFragment,
    List.takeWhile_append_of_pos noQuery, ends, List.append_nil]

theorem splitTail_fst_of_clear (clear : Clear cs) : (splitTail cs).1 = cs := by
  have alone := splitTail_fst clear fun c (first : ([] : List Char).head? = some c) => by cases first
  rwa [List.append_nil] at alone

theorem parseAuthority_append (clear : Clear cs) (added : IsAddition steps tail)
    (read : parseAuthority scheme cs = .ok b) :
    (isSpecial scheme = true → ∃ u, parseAuthority scheme (cs ++ (steps ++ tail)) = .ok u) ∧
    ∀ u, parseAuthority scheme (cs ++ (steps ++ tail)) = .ok u → Continues scheme steps b u := by
  obtain ⟨a, found, rfl⟩ := parseAuthority_eq_ok_iff.1 read
  have ends (c : Char) (first : (steps ++ tail).head? = some c) :
      (!endsAuthority (isSpecial scheme) c) = false := by
    rcases added.first first with rfl | rfl <;> simp [endsAuthority, isSlash]
  have sameText : authorityText scheme (cs ++ (steps ++ tail)) = authorityText scheme cs :=
    Text.takeWhile_append_of_head ends cs
  have longer : behindAuthority scheme (cs ++ (steps ++ tail)) =
      behindAuthority scheme cs ++ (steps ++ tail) := Text.dropWhile_append_of_head ends cs
  constructor
  · intro special
    refine ⟨_, parseAuthority_eq_ok_iff.2 ⟨a, ?_, rfl⟩⟩
    have followed := readAuthority_of_special special found
    rw [sameText]
    cases (behindAuthority scheme (cs ++ (steps ++ tail))).isEmpty with
    | false => exact followed
    | true => exact readAuthority_of_followed followed
  · intro u read
    obtain ⟨a', found', rfl⟩ := parseAuthority_eq_ok_iff.1 read
    rw [sameText] at found'
    have same : a' = a := Except.ok.inj ((readAuthority_alone found').symm.trans
      (readAuthority_alone found))
    subst same
    have more : a'.more ⊆ cs :=
      List.Subset.trans (readAuthority_more found) (List.takeWhile_sublist _).subset
    have within : a'.more ++ behindAuthority scheme cs ⊆ cs :=
      List.append_subset.2 ⟨more, (List.dropWhile_sublist _).subset⟩
    have clearFront : Clear (a'.more ++ behindAuthority scheme cs) := clear.of_subset within
    refine ⟨rfl, rfl, a'.more ++ behindAuthority scheme cs, ?_, ?_⟩
    · rw [Authority.address_path, splitTail_fst_of_clear clearFront]
    · rw [Authority.address_path, longer, ← List.append_assoc, ← List.append_assoc,
        splitTail_fst (clearFront.append added.clear) added.queried]

theorem parseAuthority_ne_nil (special : isSpecial scheme = true)
    (read : parseAuthority scheme cs = .ok b) : cs ≠ [] := by
  rintro rfl
  obtain ⟨a, found, _⟩ := parseAuthority_eq_ok_iff.1 read
  have found : readHostPort scheme [] [] = .ok a := found
  exact (readHostPort_host special found).1 rfl

theorem underHost_path (notFile : scheme ≠ "file") (cs : List Char) :
    (underHost { scheme := scheme, path := .rooted [] } [] cs).path =
      .rooted (pathBehind scheme ('/' :: (splitTail cs).1)) := by
  have slash : isSlash (isSpecial scheme) '/' = true := by simp [isSlash]
  simp [underHost, withTail, settlePath, notFile, pathBehind, slash]

theorem parseOther_slash {d : Char} (notSlash : d ≠ '/') (rest : List Char) :
    parseOther scheme ('/' :: d :: rest) =
      .ok (underHost { scheme := scheme, path := .rooted [] } [] (d :: rest)) := by
  rw [parseOther]
  intro more same
  cases same
  exact notSlash rfl

section

variable (clear : Clear cs) (added : IsAddition steps tail) (notFile : scheme ≠ "file")

include clear added notFile

theorem underHost_append :
    Continues scheme steps (underHost { scheme := scheme, path := .rooted [] } [] cs)
      (underHost { scheme := scheme, path := .rooted [] } [] (cs ++ (steps ++ tail))) := by
  refine ⟨rfl, rfl, '/' :: cs, ?_, ?_⟩
  · rw [underHost_path notFile, splitTail_fst_of_clear clear]
  · rw [underHost_path notFile, ← List.append_assoc,
      splitTail_fst (clear.append added.clear) added.queried, List.cons_append]

theorem parseOther_append (unfinished : cs.getLast? ≠ some '/') (rooted : b.isRootless = false)
    (read : parseOther scheme cs = .ok b) {u : Url}
    (readOn : parseOther scheme (cs ++ (steps ++ tail)) = .ok u) : Continues scheme steps b u := by
  unfold parseOther at read
  split at read
  next rest =>
    have clearRest : Clear rest := clear.of_subset (by simp)
    exact (parseAuthority_append clearRest added read).2 u readOn
  next rest noHost =>
    have clearRest : Clear rest := clear.of_subset (by simp)
    cases read
    cases rest with
    | nil => simp at unfinished
    | cons d rest =>
      -- Something stands between the slash and what is added, so that no host begins here.
      have notSlash : d ≠ '/' := fun same => noHost rest (by rw [same])
      simp only [List.cons_append, parseOther_slash notSlash, Except.ok.injEq] at readOn
      rw [← readOn]
      exact underHost_append clearRest added notFile
  next =>
    cases read
    cases rooted

theorem parseBehind_append (unfinished : cs.getLast? ≠ some '/') (rooted : b.isRootless = false)
    (read : parseBehind scheme cs = .ok b) :
    (isSpecial scheme = true → ∃ u, parseBehind scheme (cs ++ (steps ++ tail)) = .ok u) ∧
    ∀ u, parseBehind scheme (cs ++ (steps ++ tail)) = .ok u → Continues scheme steps b u := by
  unfold parseBehind at read ⊢
  simp only [if_neg notFile] at read ⊢
  by_cases special : isSpecial scheme = true
  · simp only [special, if_true] at read ⊢
    have stop : cs.dropWhile isAnySlash ≠ [] := parseAuthority_ne_nil special read
    have clearFront : Clear (cs.dropWhile isAnySlash) :=
      clear.of_subset (List.dropWhile_sublist _).subset
    rw [Text.dropWhile_append_of_stop stop]
    obtain ⟨found, continues⟩ := parseAuthority_append clearFront added read
    exact ⟨fun _ => found special, continues⟩
  · simp only [special] at read ⊢
    refine ⟨fun special' => absurd special' (by simp), fun u readOn => ?_⟩
    exact parseOther_append clear added notFile unfinished rooted read readOn

end

inductive FileContinues (steps : List Char) (b u : Url) : Prop
  | root (path : List String) (filled : path ≠ []) (atBase : b.path = .rooted [""])
    (atTarget : u.path = .rooted path)
  | under (front : List Char) (atBase : b.path = .rooted (filePath front))
    (atTarget : u.path = .rooted (filePath (front ++ steps)))

theorem FileContinues.of_filePath (clear : Clear cs) (added : IsAddition steps tail) {u : Url}
    (atBase : b.path = .rooted (filePath (splitTail cs).1))
    (atTarget : u.path = .rooted (filePath (splitTail (cs ++ (steps ++ tail))).1)) :
    FileContinues steps b u := by
  rw [splitTail_fst_of_clear clear] at atBase
  rw [← List.append_assoc, splitTail_fst (clear.append added.clear) added.queried] at atTarget
  exact .under cs atBase atTarget

section

variable {root : Url} (isFile : root.scheme = "file")

include isFile

theorem underHost_filePath (cs : List Char) :
    (underHost root [] cs).path = .rooted (filePath (splitTail cs).1) := by
  simp [underHost, withTail, filePath, isFile]

theorem onHost_path (cs : List Char) : (parseFile.onHost root cs).path =
    .rooted (filePath (splitTail (if root.host.all Host.isEmpty then cs
      else if cs.head?.any isAnySlash then cs.drop 1 else cs)).1) := by
  unfold parseFile.onHost
  split
  · exact underHost_filePath isFile cs
  · dsimp only
    generalize (if cs.head?.any isAnySlash = true then cs.drop 1 else cs) = behind
    have isLocal : ({ root with host := some (.domain "") } : Url).scheme = "file" := isFile
    split
    · exact underHost_filePath isLocal behind
    · exact underHost_filePath isFile behind

variable (clear : Clear cs) (added : IsAddition steps tail)

include clear added

theorem underHost_fileContinues :
    FileContinues steps (underHost root [] cs) (underHost root [] (cs ++ (steps ++ tail))) :=
  .of_filePath clear added (underHost_filePath isFile cs) (underHost_filePath isFile _)

theorem onHost_fileContinues :
    FileContinues steps (parseFile.onHost root cs)
      (parseFile.onHost root (cs ++ (steps ++ tail))) := by
  have atBase := onHost_path isFile cs
  have atTarget := onHost_path isFile (cs ++ (steps ++ tail))
  split at atBase
  next noHost =>
    rw [if_pos noHost] at atTarget
    exact .of_filePath clear added atBase atTarget
  next hasHost =>
    rw [if_neg hasHost] at atTarget
    cases cs with
    | nil => exact .root _ (settlePath_ne_nil _) atBase atTarget
    | cons c rest =>
      simp only [List.cons_append, List.head?_cons, Option.any_some, List.drop_one,
        List.tail_cons] at atBase atTarget
      split at atBase
      next slash =>
        rw [if_pos slash] at atTarget
        exact .of_filePath (clear.of_subset (List.subset_cons_self c rest)) added atBase atTarget
      next other =>
        rw [if_neg other] at atTarget
        exact .of_filePath clear added atBase atTarget

end

theorem parseFileHost_append (added : IsAddition steps tail) (cs : List Char) :
    parseFileHost (cs ++ (steps ++ tail)) =
      (parseFileHost cs).map fun (host, rest) => (host, rest ++ (steps ++ tail)) := by
  have ends (c : Char) (first : (steps ++ tail).head? = some c) :
      (!(c == '/' || c == '\\' || c == '?' || c == '#')) = false := by
    rcases added.first first with rfl | rfl <;> rfl
  simp only [parseFileHost, Text.takeWhile_append_of_head ends, Text.dropWhile_append_of_head ends]
  split
  · rfl
  · split
    · rfl
    · generalize parseHost (cs.takeWhile _) = host
      cases host <;> rfl

theorem parseFileHost_subset {host : Host} {rest : List Char}
    (read : parseFileHost cs = .ok (host, rest)) : rest ⊆ cs := by
  simp only [parseFileHost] at read
  split at read
  · cases read
    exact List.Subset.refl cs
  · split at read
    · cases read
      exact (List.dropWhile_sublist _).subset
    · obtain ⟨found, _, made⟩ := of_bind_eq_ok read
      cases made
      exact (List.dropWhile_sublist _).subset

def fileRoot : Url := { scheme := "file", host := some (.domain ""), path := .rooted [""] }

theorem fileRoot_scheme : fileRoot.scheme = "file" := rfl

theorem parseFile_unslashed {c : Char} (other : isAnySlash c = false) (rest : List Char) :
    parseFile none (c :: rest) = .ok (underHost fileRoot [] (c :: rest)) := by
  cases rest <;> simp only [parseFile, other, Bool.false_and, Bool.false_eq_true, if_false] <;> rfl

theorem parseFile_slashed {c d : Char} (slash : isAnySlash c = true) (other : isAnySlash d = false)
    (rest : List Char) :
    parseFile none (c :: d :: rest) = .ok (underHost fileRoot [] (d :: rest)) := by
  simp only [parseFile, slash, other, Bool.and_false, Bool.false_eq_true, if_false, if_true]
  rfl

theorem parseFile_hosted {c d : Char} (slash : isAnySlash c = true) (slash' : isAnySlash d = true)
    (rest : List Char) : parseFile none (c :: d :: rest) = (parseFileHost rest).map
      fun (host, rest) => parseFile.onHost { fileRoot with host := some host } rest := by
  simp only [parseFile, slash, slash', Bool.and_true, if_true]
  cases parseFileHost rest <;> rfl

theorem rooted_of_parseFile {u : Url} (read : parseFile none cs = .ok u) :
    ∃ path, path ≠ [] ∧ u.path = .rooted path := by
  obtain ⟨host, rest, rfl⟩ := exists_underHost_of_parseFile read
  exact ⟨_, settlePath_ne_nil _, underHost_filePath rfl rest⟩

theorem parseFile_append (clear : Clear cs) (added : IsAddition steps tail)
    (read : parseFile none cs = .ok b) {u : Url}
    (readOn : parseFile none (cs ++ (steps ++ tail)) = .ok u) : FileContinues steps b u := by
  obtain ⟨path, filled, atTarget⟩ := rooted_of_parseFile readOn
  match cs with
  | [] =>
    cases read
    exact .root path filled rfl atTarget
  | c :: rest =>
    cases slash : isAnySlash c with
    | false =>
      rw [List.cons_append, parseFile_unslashed slash] at readOn
      rw [parseFile_unslashed slash] at read
      cases read
      cases readOn
      exact underHost_fileContinues fileRoot_scheme clear added
    | true =>
      match rest with
      | [] =>
        simp only [parseFile, slash, if_true] at read
        cases read
        exact .root path filled rfl atTarget
      | d :: rest =>
        have clearRest : Clear rest := clear.of_subset (by simp)
        cases slash' : isAnySlash d with
        | false =>
          rw [List.cons_append, List.cons_append, parseFile_slashed slash slash'] at readOn
          rw [parseFile_slashed slash slash'] at read
          cases read
          cases readOn
          exact underHost_fileContinues fileRoot_scheme
            (clear.of_subset (List.subset_cons_self c _)) added
        | true =>
          rw [parseFile_hosted slash slash'] at read
          rw [List.cons_append, List.cons_append, parseFile_hosted slash slash',
            parseFileHost_append added] at readOn
          obtain ⟨⟨host, behind⟩, found, rfl⟩ := of_map_eq_ok read
          rw [found] at readOn
          cases readOn
          have isFile : ({ fileRoot with host := some host } : Url).scheme = "file" := rfl
          exact onHost_fileContinues isFile (clearRest.of_subset (parseFileHost_subset found)) added

theorem splitScheme?_append {rest : List Char} (split : splitScheme? cs = some (scheme, rest))
    (more : List Char) : splitScheme? (cs ++ more) = some (scheme, rest ++ more) := by
  unfold splitScheme? at split ⊢
  split at split
  next c cs =>
    split at split
    next alpha =>
      split at split
      next rest' colon =>
        cases split
        have stop : (c :: cs).dropWhile isSchemeChar ≠ [] := by simp [colon]
        simp only [List.cons_append, alpha, if_true]
        rw [← List.cons_append, Text.dropWhile_append_of_stop stop,
          Text.takeWhile_append_of_stop stop, colon]
        rfl
      · cases split
    · cases split
  · cases split

theorem splitScheme?_suffix {rest : List Char} (split : splitScheme? cs = some (scheme, rest)) :
    ∃ front, cs = front ++ ':' :: rest := by
  unfold splitScheme? at split
  split at split
  next c cs =>
    split at split
    · split at split
      next rest' colon =>
        cases split
        refine ⟨(c :: cs).takeWhile isSchemeChar, ?_⟩
        rw [← colon]
        exact List.takeWhile_append_dropWhile.symm
      · cases split
    · cases split
  · cases split

def isKept (c : Char) : Bool := c != '\t' && c != '\n' && c != '\r'

def cleanStart (cs : List Char) : List Char :=
  (cs.dropWhile fun c => c.toNat ≤ 0x20).filter isKept

def cleanEnd (cs : List Char) : List Char :=
  (Text.dropEndWhile (fun c => c.toNat ≤ 0x20) cs).filter isKept

theorem isKept_of_visible {c : Char} (visible : 0x20 < c.toNat) : isKept c = true := by
  have tab : c ≠ '\t' := by rintro rfl; simp at visible
  have line : c ≠ '\n' := by rintro rfl; simp at visible
  have carriage : c ≠ '\r' := by rintro rfl; simp at visible
  simp [isKept, tab, line, carriage]

theorem clean_eq {text : String} {front behind : List Char} {c : Char} (visible : 0x20 < c.toNat)
    (same : text.toList = front ++ c :: behind) :
    clean text = cleanStart front ++ c :: cleanEnd behind := by
  have other : (decide (c.toNat ≤ 0x20)) = false := by simpa using visible
  have kept := isKept_of_visible visible
  change (Text.dropEndWhile _ (text.toList.dropWhile _)).filter isKept = _
  rw [same, Text.dropWhile_append_cons other, Text.dropEndWhile_append_cons other,
    List.filter_append, List.filter_cons, if_pos kept]
  rfl

theorem cleanEnd_eq_self {cs : List Char} (visible : ∀ c ∈ cs, 0x20 < c.toNat) :
    cleanEnd cs = cs := by
  have last (c : Char) (isLast : cs.getLast? = some c) : (decide (c.toNat ≤ 0x20)) = false := by
    simpa using visible c (List.mem_of_getLast? isLast)
  rw [cleanEnd, Text.dropEndWhile_eq_self last, List.filter_eq_self]
  exact fun c mem => isKept_of_visible (visible c mem)

theorem clean_subset (text : String) : clean text ⊆ text.toList := by
  intro c mem
  have inside := (Text.dropEndWhile_isPrefix _ _).subset (List.mem_filter.1 mem).1
  exact (List.dropWhile_sublist _).subset inside

theorem cleanEnd_append_cons {c : Char} (visible : ∀ d ∈ cs, 0x20 < d.toNat)
    (visible' : 0x20 < c.toNat) (behind : List Char) :
    cleanEnd (cs ++ c :: behind) = cs ++ c :: cleanEnd behind := by
  have other : (decide (c.toNat ≤ 0x20)) = false := by simpa using visible'
  have kept : cs.filter isKept = cs :=
    List.filter_eq_self.2 fun d mem => isKept_of_visible (visible d mem)
  rw [cleanEnd, Text.dropEndWhile_append_cons other, List.filter_append, kept, List.filter_cons,
    if_pos (isKept_of_visible visible')]
  rfl

theorem toList_ne_nil_of_parse {text : String} (read : parse text = .ok b) : text.toList ≠ [] := by
  obtain ⟨scheme, rest, split, _⟩ := parse_eq_ok_iff.1 read
  obtain ⟨front, same⟩ := splitScheme?_suffix split
  have colon : ':' ∈ text.toList := clean_subset text (by simp [same])
  exact List.ne_nil_of_mem colon

section

variable {base whole : String} {behind : List Char} {last : Char}
  (ends : base.toList.getLast? = some last) (visible : 0x20 < last.toNat) (unfinished : last ≠ '/')
  (joined : whole.toList = base.toList ++ behind) (left : cleanEnd behind = steps ++ tail)
  (clear : Clear base.toList) (added : IsAddition steps tail)

include ends visible unfinished joined left clear added

theorem parse_append (read : parse base = .ok b) (rooted : b.isRootless = false) :
    (isSpecial b.scheme = true → b.scheme ≠ "file" → ∃ u, parse whole = .ok u) ∧
    ∀ u, parse whole = .ok u →
      u.scheme = b.scheme ∧ (b.scheme ≠ "file" → Continues b.scheme steps b u) ∧
        (b.scheme = "file" → FileContinues steps b u) := by
  obtain ⟨front, same⟩ := List.getLast?_eq_some_iff.1 ends
  have alone : clean base = cleanStart front ++ [last] := clean_eq visible same
  have longer : clean whole = clean base ++ (steps ++ tail) := by
    rw [clean_eq visible (show whole.toList = front ++ last :: behind by simp [joined, same]),
      alone, left, List.append_assoc, List.singleton_append]
  obtain ⟨scheme, rest, split, read⟩ := parse_eq_ok_iff.1 read
  have splitOn : splitScheme? (clean whole) = some (scheme, rest ++ (steps ++ tail)) := by
    rw [longer]
    exact splitScheme?_append split _
  have sameScheme : b.scheme = scheme := parseBehind_scheme read
  obtain ⟨before, suffix⟩ := splitScheme?_suffix split
  have clearRest : Clear rest := by
    apply clear.of_subset
    intro c mem
    exact clean_subset base (by simp [suffix, mem])
  have restLast : rest.getLast? ≠ some '/' := by
    intro isSlash
    have both : (clean base).getLast? = some '/' := by
      rw [suffix, List.getLast?_append, List.getLast?_cons, isSlash]
      rfl
    rw [alone, List.getLast?_concat] at both
    exact unfinished (Option.some.inj both)
  have continued (notFile : scheme ≠ "file") :=
    parseBehind_append clearRest added notFile restLast rooted read
  rw [sameScheme]
  constructor
  · intro special notFile
    obtain ⟨u, readOn⟩ := (continued notFile).1 special
    exact ⟨u, parse_eq_ok_iff.2 ⟨scheme, _, splitOn, readOn⟩⟩
  · intro u readOn
    obtain ⟨scheme', rest', split', readOn⟩ := parse_eq_ok_iff.1 readOn
    rw [splitOn] at split'
    cases split'
    refine ⟨parseBehind_scheme readOn, fun notFile => (continued notFile).2 u readOn, fun isFile => ?_⟩
    simp only [parseBehind, isFile, if_true] at read readOn
    exact parseFile_append clearRest added read readOn

end

end RefData.Url
