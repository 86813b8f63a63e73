import RefData.Proofs.Url.Address
set_option autoImplicit false

namespace RefData.Url

theorem toLower_eq_self_of_pathSet {c : Char} (encoded : pathSet c = true) : c.toLower = c := by
  have letters : ∀ n : Fin 26, pathSet (Char.ofNat (65 + n)) = false := by decide
  unfold Char.toLower
  split
  next upper =>
    have low : 65 ≤ c.toNat := upper.1
    have high : c.toNat ≤ 90 := upper.2
    have letter := letters ⟨c.toNat - 65, by omega⟩
    simp only [Nat.add_sub_cancel' low, Char.ofNat_toNat, encoded] at letter
    cases letter
  next => rfl

theorem utf8Bytes_eq_cons (c : Char) :
    ∃ b bs, Text.utf8Bytes c = b :: bs ∧ b < 256 ∧ (b = 0x2E → c = '.') := by
  have bound : c.toNat < 0x110000 := by
    have valid := c.valid
    simp only [UInt32.isValidChar, Nat.isValidChar] at valid
    change c.val.toNat < _
    omega
  unfold Text.utf8Bytes
  simp only []
  split
  · refine ⟨_, _, rfl, by omega, fun dot => ?_⟩
    exact Char.toNat_inj.1 dot
  · split
    · exact ⟨_, _, rfl, by omega, fun dot => by omega⟩
    · split
      · exact ⟨_, _, rfl, by omega, fun dot => by omega⟩
      · exact ⟨_, _, rfl, by omega, fun dot => by omega⟩

theorem percentEncode_eq_self {inSet : Char → Bool} {cs : List Char}
    (none : ∀ c ∈ cs, inSet c = false) : percentEncode inSet cs = cs := by
  induction cs with
  | nil => rfl
  | cons c cs ih =>
    have rest := ih fun d mem => none d (List.mem_cons_of_mem c mem)
    have first := none c List.mem_cons_self
    simpa [percentEncode, first] using rest

structure Dotted (text : List Char) : Prop where
  chars : ∀ c ∈ text, c ∈ ['.', '%', '2', 'e']
  escapes : ∀ x y, ['%', x, y] <:+: text → x = '2' ∧ y = 'e'

theorem map_toLower_percentEncode {segment text : List Char} (dotted : Dotted text) :
    (percentEncode pathSet segment).map Char.toLower = text ↔
      segment.map Char.toLower = text := by
  by_cases encodes : ∃ c ∈ segment, pathSet c = true
  · obtain ⟨c, mem, encoded⟩ := encodes
    have fixed := toLower_eq_self_of_pathSet encoded
    constructor
    · intro same
      -- The first byte of the character is written as an escape, and it is not that of a dot.
      obtain ⟨before, behind, rfl⟩ := List.append_of_mem mem
      obtain ⟨b, bs, bytes, small, isDot⟩ := utf8Bytes_eq_cons c
      have written : encodeByte b <:+: percentEncode pathSet (before ++ c :: behind) := by
        refine ⟨percentEncode pathSet before,
          bs.flatMap encodeByte ++ percentEncode pathSet behind, ?_⟩
        simp [percentEncode, encoded, bytes]
      have lowered := written.map Char.toLower
      rw [same] at lowered
      have escape := dotted.escapes _ _ lowered
      have hex : ∀ n < 256, (hexUpper (n / 16)).toLower = '2' →
          (hexUpper (n % 16)).toLower = 'e' → n = 0x2E := by decide +kernel
      rw [isDot (hex b small escape.1 escape.2)] at encoded
      exact absurd encoded (by decide)
    · intro same
      have inText : c.toLower ∈ text := same ▸ List.mem_map_of_mem mem
      have plain := dotted.chars _ inText
      rw [fixed] at plain
      simp only [List.mem_cons, List.not_mem_nil, or_false] at plain
      rcases plain with rfl | rfl | rfl | rfl <;> exact absurd encoded (by decide)
  · have none : ∀ c ∈ segment, pathSet c = false := by simpa using encodes
    rw [percentEncode_eq_self none]

theorem isSingleDot_percentEncode (segment : List Char) :
    isSingleDot (percentEncode pathSet segment) = isSingleDot segment := by
  have one : Dotted ['.'] := ⟨by simp, by simp [List.infix_cons_iff]⟩
  have escaped : Dotted "%2e".toList := ⟨by simp, by simp [List.infix_cons_iff]⟩
  rw [Bool.eq_iff_iff]
  simp only [isSingleDot, Bool.or_eq_true, beq_iff_eq, map_toLower_percentEncode one,
    map_toLower_percentEncode escaped]

theorem isDoubleDot_percentEncode (segment : List Char) :
    isDoubleDot (percentEncode pathSet segment) = isDoubleDot segment := by
  have plain : Dotted ['.', '.'] := ⟨by simp, by simp [List.infix_cons_iff]⟩
  have first : Dotted "%2e.".toList := ⟨by simp, by simp [List.infix_cons_iff]⟩
  have second : Dotted ".%2e".toList := ⟨by simp, by simp [List.infix_cons_iff]⟩
  have both : Dotted "%2e%2e".toList := ⟨by simp, by simp [List.infix_cons_iff]⟩
  rw [Bool.eq_iff_iff]
  simp only [isDoubleDot, Bool.or_eq_true, beq_iff_eq, map_toLower_percentEncode plain,
    map_toLower_percentEncode first, map_toLower_percentEncode second,
    map_toLower_percentEncode both]

def depthAfter (depth : Nat) (segment : List Char) : Nat :=
  if isDoubleDot segment then depth - 1
  else if isSingleDot segment then depth
  else depth + 1

def climbs (depth : Nat) : List (List Char) → Bool
  | [] => false
  | segment :: rest => isDoubleDot segment && depth == 0 || climbs (depthAfter depth segment) rest

theorem climbs_percentEncode (depth : Nat) (segments : List (List Char)) :
    climbs depth (segments.map (percentEncode pathSet)) = climbs depth segments := by
  induction segments generalizing depth with
  | nil => rfl
  | cons segment rest ih =>
    simp only [List.map_cons, climbs, depthAfter, isDoubleDot_percentEncode,
      isSingleDot_percentEncode, ih]

variable {isFile : Bool}

-- One segment leaves what was there before the start, as long as two dots find one to take away.
theorem addSegment_stays (start : List String) {below : List String} {segment : List Char}
    {depth : Nat} (deep : depth ≤ below.length)
    (stays : (isDoubleDot segment && depth == 0) = false) (isLast : Bool) :
    ∃ below', depthAfter depth segment ≤ below'.length ∧ (isLast = true → below' ≠ []) ∧
      addSegment isFile (start ++ below) segment isLast = start ++ below' := by
  unfold addSegment depthAfter
  split
  next up =>
    simp only [up, Bool.true_and, beq_eq_false_iff_ne, ne_eq] at stays
    obtain ⟨shorter, low, same⟩ : ∃ shorter : List String, depth - 1 ≤ shorter.length ∧
        dropLastSegment (start ++ below) = start ++ shorter := by
      unfold dropLastSegment
      split
      · exact ⟨below, by omega, rfl⟩
      · have some : below ≠ [] := List.ne_nil_of_length_pos (by omega)
        refine ⟨below.dropLast, ?_, List.dropLast_append_of_ne_nil some⟩
        rw [List.length_dropLast]
        omega
    rw [same]
    cases isLast with
    | true => exact ⟨shorter ++ [""], by simp; omega, by simp, by simp⟩
    | false => exact ⟨shorter, low, by simp, by simp⟩
  next =>
    split
    · cases isLast with
      | true => exact ⟨below ++ [""], by simp; omega, by simp, by simp⟩
      | false => exact ⟨below, deep, by simp, by simp⟩
    · split
      · exact ⟨below ++ [String.ofList [segment.headD ' ', ':']], by simp; omega, by simp, by simp⟩
      · exact ⟨below ++ [String.ofList segment], by simp; omega, by simp, by simp⟩

theorem addSegments_stays (start : List String) {below : List String}
    {segments : List (List Char)} {depth : Nat} (deep : depth ≤ below.length)
    (stays : climbs depth segments = false) (some : segments ≠ []) :
    ∃ below', below' ≠ [] ∧ addSegments isFile (start ++ below) segments = start ++ below' := by
  induction segments generalizing below depth with
  | nil => exact absurd rfl some
  | cons segment rest ih =>
    simp only [climbs, Bool.or_eq_false_iff] at stays
    obtain ⟨here, later⟩ := stays
    cases rest with
    | nil =>
      obtain ⟨below', _, present, same⟩ := addSegment_stays start deep here true
      exact ⟨below', present rfl, same⟩
    | cons next rest =>
      obtain ⟨below', deep', _, same⟩ := addSegment_stays start deep here false
      rw [addSegments, same]
      · exact ih deep' later (by simp)
      · simp

def walk (isFile : Bool) (path : List String) (segments : List (List Char)) : List String :=
  segments.foldl (fun path segment => addSegment isFile path segment false) path

theorem addSegments_append (path : List String) (front : List (List Char))
    {back : List (List Char)} (some : back ≠ []) :
    addSegments isFile path (front ++ back) =
      addSegments isFile (walk isFile path front) back := by
  induction front generalizing path with
  | nil => rfl
  | cons segment rest ih =>
    rw [List.cons_append, addSegments, ih]
    · rfl
    · simp [some]

-- A path and the directory that it names differ by no more than an empty last segment.
def IsDirectoryOf (directory path : List String) : Prop :=
  path = directory ∨ path = directory ++ [""]

theorem walk_isDirectoryOf (path : List String) {segments : List (List Char)}
    (some : segments ≠ []) :
    IsDirectoryOf (walk isFile path segments) (addSegments isFile path segments) := by
  induction segments generalizing path with
  | nil => exact absurd rfl some
  | cons segment rest ih =>
    cases rest with
    | nil =>
      simp only [addSegments, walk, List.foldl_cons, List.foldl_nil, addSegment]
      split
      · exact .inr rfl
      · split
        · exact .inr rfl
        · exact .inl rfl
    | cons next rest =>
      rw [addSegments]
      · exact ih (addSegment isFile path segment false) (by simp)
      · simp

variable {scheme : String}

def writtenSegments (scheme : String) (cs : List Char) : List (List Char) :=
  Text.pieces (isSlash (isSpecial scheme)) cs

def keptSegments (scheme : String) (cs : List Char) : List (List Char) :=
  (writtenSegments scheme cs).map (percentEncode pathSet)

theorem keptSegments_ne_nil (scheme : String) (cs : List Char) : keptSegments scheme cs ≠ [] := by
  simpa [keptSegments, writtenSegments] using Text.pieces_ne_nil _ cs

theorem keptSegments_append (scheme : String) (front back : List Char) :
    keptSegments scheme (front ++ '/' :: back) =
      keptSegments scheme front ++ keptSegments scheme back := by
  have slash : isSlash (isSpecial scheme) '/' = true := by simp [isSlash]
  simp only [keptSegments, writtenSegments, Text.pieces_append_cons slash, List.map_append]

theorem extendPath_eq (scheme : String) (path : List String) (cs : List Char) :
    extendPath scheme path cs = addSegments (scheme == "file") path (keptSegments scheme cs) := rfl

theorem extendPath_append (scheme : String) (front back : List Char) :
    ∃ directory, IsDirectoryOf directory (extendPath scheme [] front) ∧
      extendPath scheme [] (front ++ '/' :: back) = extendPath scheme directory back := by
  refine ⟨walk (scheme == "file") [] (keptSegments scheme front), ?_, ?_⟩
  · rw [extendPath_eq]
    exact walk_isDirectoryOf [] (keptSegments_ne_nil scheme front)
  · rw [extendPath_eq, extendPath_eq, keptSegments_append]
    exact addSegments_append [] _ (keptSegments_ne_nil scheme back)

theorem pathBehind_append (scheme : String) (front back : List Char) :
    ∃ directory, IsDirectoryOf directory (pathBehind scheme front) ∧
      pathBehind scheme (front ++ '/' :: back) = extendPath scheme directory back := by
  have slash : isSlash (isSpecial scheme) '/' = true := by simp [isSlash]
  cases front with
  | nil =>
    refine ⟨[], ?_, ?_⟩
    · by_cases special : isSpecial scheme = true <;> simp [pathBehind, IsDirectoryOf, special]
    · simp only [List.nil_append, pathBehind, slash, if_true]
  | cons c rest =>
    simp only [pathBehind, List.cons_append]
    split
    · exact extendPath_append scheme rest back
    · exact extendPath_append scheme (c :: rest) back

theorem extendPath_stays {back : List Char} (stays : climbs 0 (writtenSegments scheme back) = false)
    (directory : List String) :
    ∃ below, below ≠ [] ∧ extendPath scheme directory back = directory ++ below := by
  have keptStays : climbs ([] : List String).length (keptSegments scheme back) = false :=
    (climbs_percentEncode 0 _).trans stays
  obtain ⟨below, present, added⟩ := addSegments_stays directory (Nat.le_refl _) keptStays
    (keptSegments_ne_nil scheme back)
  rw [List.append_nil] at added
  exact ⟨below, present, added⟩

def IsWithin (base path : List Char) : Prop :=
  path = base ∨ base ++ ['/'] <+: path ∨ (base.getLast? = some '/' ∧ base <+: path)

instance (base path : List Char) : Decidable (IsWithin base path) :=
  inferInstanceAs (Decidable (_ ∨ _ ∨ _))

def segmentsText (segments : List String) : List Char := segments.flatMap fun s => '/' :: s.toList

theorem isWithin_of_isDirectoryOf {directory path below : List String}
    (names : IsDirectoryOf directory path) (some : below ≠ []) :
    IsWithin (segmentsText path) (segmentsText (directory ++ below)) := by
  obtain ⟨first, rest, rfl⟩ := List.exists_cons_of_ne_nil some
  have slashed : segmentsText directory ++ ['/'] <+: segmentsText (directory ++ first :: rest) :=
    ⟨first.toList ++ segmentsText rest, by simp [segmentsText]⟩
  rcases names with rfl | rfl
  · exact .inr (.inl slashed)
  · have ends : segmentsText (directory ++ [""]) = segmentsText directory ++ ['/'] := by
      simp [segmentsText]
    rw [ends]
    exact .inr (.inr ⟨List.getLast?_concat, slashed⟩)

theorem isWithin_pathBehind {back : List Char}
    (stays : climbs 0 (writtenSegments scheme back) = false) (front : List Char) :
    IsWithin (segmentsText (pathBehind scheme front))
      (segmentsText (pathBehind scheme (front ++ '/' :: back))) := by
  obtain ⟨directory, names, same⟩ := pathBehind_append scheme front back
  obtain ⟨below, present, added⟩ := extendPath_stays stays directory
  rw [same, added]
  exact isWithin_of_isDirectoryOf names present

def filePath (text : List Char) : List String := settlePath "file" (extendPath "file" [] text)

theorem settlePath_ne_nil (path : List String) : settlePath "file" path ≠ [] := by
  simp only [settlePath, beq_self_eq_true, if_true]
  split
  · simp
  next some => simpa using some

theorem isWithin_root {path : List String} (some : path ≠ []) :
    IsWithin (segmentsText [""]) (segmentsText path) := by
  obtain ⟨first, rest, rfl⟩ := List.exists_cons_of_ne_nil some
  exact .inr (.inr ⟨rfl, first.toList ++ segmentsText rest, rfl⟩)

theorem isWithin_settlePath {directory path below : List String}
    (names : IsDirectoryOf directory path) (some : below ≠ []) :
    IsWithin (segmentsText (settlePath "file" path))
      (segmentsText (settlePath "file" (directory ++ below))) := by
  by_cases blank : directory.dropWhile String.isEmpty = []
  · have root : settlePath "file" path = [""] := by
      rcases names with rfl | rfl <;> simp [settlePath, blank, List.dropWhile_append]
    rw [root]
    exact isWithin_root (settlePath_ne_nil _)
  · have settled (behind : List String) : settlePath "file" (directory ++ behind) =
        directory.dropWhile String.isEmpty ++ behind := by
      simp [settlePath, List.dropWhile_append, blank]
    rw [settled]
    refine isWithin_of_isDirectoryOf ?_ some
    rcases names with rfl | rfl
    · exact .inl (by simpa using settled [])
    · exact .inr (settled [""])

theorem isWithin_filePath {back : List Char}
    (stays : climbs 0 (writtenSegments "file" back) = false) (front : List Char) :
    IsWithin (segmentsText (filePath front)) (segmentsText (filePath (front ++ '/' :: back))) := by
  obtain ⟨directory, names, same⟩ := extendPath_append "file" front back
  obtain ⟨below, present, added⟩ := extendPath_stays stays directory
  rw [filePath, filePath, same, added]
  exact isWithin_settlePath names present

end RefData.Url
