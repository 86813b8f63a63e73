import RefData.Proofs.Proxy.Cookie
set_option autoImplicit false

namespace RefData.Proxy.Cookie

def segments (cookie : String) : List (List Char) :=
  (Text.pieces (· == ';') cookie.toList).map Text.trimChars

def Stays (part : List Char) : Prop :=
  part ≠ [] ∧ attributeName part ≠ "domain".toList ∧
    ¬ (attributeName part = "samesite".toList ∧
      (attributeValue part = "lax".toList ∨ attributeValue part = "strict".toList))

instance : DecidablePred Stays :=
  fun part => inferInstanceAs (Decidable (part ≠ [] ∧ _ ≠ _ ∧ ¬ (_ ∧ (_ ∨ _))))

theorem stays_iff {part : List Char} : Stays part ↔ part ≠ [] ∧ isConfining part = false := by
  simp [Stays, isConfining]

variable {cookie host : String} {first : List Char} {rest : List (List Char)}

theorem parts_eq (cut : segments cookie = first :: rest) (filled : first ≠ []) :
    parts cookie = first :: rest.filter fun part => !part.isEmpty := by
  change (segments cookie).filter _ = _
  rw [cut, List.filter_cons_of_pos]
  simpa using filled

theorem kept_eq (cut : segments cookie = first :: rest) (filled : first ≠ []) :
    kept (parts cookie) = first :: rest.filter fun part => Stays part := by
  rw [parts_eq cut filled]
  change first :: (rest.filter _).filter _ = _
  rw [List.filter_filter]
  congr 1
  apply List.filter_congr
  intro part _
  rw [Bool.eq_iff_iff]
  simp [stays_iff, and_comm]

theorem missing_append {name text : String} {attributes added : List (List Char)}
    {other : List Char} (named : ∀ part ∈ added, attributeName part = other)
    (differs : other ≠ name.toList) :
    missing name text (attributes ++ added) = missing name text attributes := by
  have same : (∃ part ∈ attributes ++ added, attributeName part = name.toList) ↔
      ∃ part ∈ attributes, attributeName part = name.toList := by
    constructor
    · rintro ⟨part, mem, isName⟩
      rcases List.mem_append.1 mem with here | inAdded
      · exact ⟨part, here, isName⟩
      · exact absurd ((named part inAdded).symm.trans isName) differs
    · rintro ⟨part, mem, isName⟩
      exact ⟨part, List.mem_append_left _ mem, isName⟩
  simp only [missing, same]

theorem attributeName_of_mem_missing {name text : String} {attributes : List (List Char)}
    {part : List Char} (mem : part ∈ missing name text attributes) :
    attributeName part = attributeName text.toList := by
  rw [List.mem_singleton.1 (missing_subset name text attributes mem)]

def additions (host : String) (stay : List (List Char)) : List (List Char) :=
  domainPart host.toList :: (missing "path" "Path=/" stay ++
    missing "samesite" "SameSite=None" stay ++ missing "secure" "Secure" stay)

def completions (stay : List (List Char)) : List (List Char) :=
  missing "path" "Path=/" stay ++ missing "samesite" "SameSite=None" stay ++
    missing "secure" "Secure" stay

theorem additions_eq (host : String) (stay : List (List Char)) :
    additions host stay = domainPart host.toList :: completions stay := rfl

theorem completions_subset (stay : List (List Char)) : completions stay ⊆ fixedParts := by
  intro part mem
  simp only [completions, List.mem_append] at mem
  rcases mem with (inPath | inSite) | inSecure
  · simp [fixedParts, List.mem_singleton.1 (missing_subset _ _ _ inPath)]
  · simp [fixedParts, List.mem_singleton.1 (missing_subset _ _ _ inSite)]
  · simp [fixedParts, List.mem_singleton.1 (missing_subset _ _ _ inSecure)]

theorem ensure_cons (name text : String) (first : List Char) (attributes : List (List Char)) :
    ensure name text (first :: attributes) =
      first :: (attributes ++ missing name text attributes) :=
  ensure_eq_append name text (first :: attributes)

-- Each attribute is looked for among those added before it too.
theorem readdressParts_eq_additions (cut : segments cookie = first :: rest) (filled : first ≠ [])
    (given : host ≠ "") (stay : List (List Char))
    (stays : rest.filter (fun part => Stays part) = stay) :
    readdressParts (parts cookie) host = first :: (stay ++ additions host stay) := by
  have nonempty : host.isEmpty = false := by simpa using given
  have domain : ∀ part ∈ [domainPart host.toList], attributeName part = "domain".toList := by
    simp [attributeName_domainPart]
  have path : ∀ part ∈ missing "path" "Path=/" stay, attributeName part = "path".toList :=
    fun part mem => attributeName_of_mem_missing mem
  have site : ∀ part ∈ missing "samesite" "SameSite=None" stay,
      attributeName part = "samesite".toList :=
    fun part mem => attributeName_of_mem_missing mem
  change ensure _ _ (ensure _ _ (ensure _ _ (if host.isEmpty then kept (parts cookie)
    else kept (parts cookie) ++ [domainPart host.toList]))) = _
  rw [nonempty, if_neg (by decide), kept_eq cut filled, stays, List.cons_append]
  rw [ensure_cons, missing_append domain (by decide)]
  rw [ensure_cons, missing_append path (by decide), missing_append domain (by decide)]
  rw [ensure_cons, missing_append site (by decide), missing_append path (by decide),
    missing_append domain (by decide)]
  simp [additions]

theorem unpadded_of_mem_segments {part : List Char} (mem : part ∈ segments cookie) :
    Text.Unpadded part := by
  obtain ⟨piece, _, rfl⟩ := List.mem_map.1 mem
  exact Text.unpadded_trimChars piece

theorem unpadded_of_mem_additions (given : host ≠ "") (unpadded : Text.Unpadded host.toList)
    {stay : List (List Char)} {part : List Char} (mem : part ∈ additions host stay) :
    Text.Unpadded part := by
  have fixed : ∀ part ∈ fixedParts, Text.Unpadded part := by decide
  rw [additions_eq] at mem
  rcases List.mem_cons.1 mem with rfl | added
  · exact Text.Unpadded.append (by decide) unpadded (by decide) (by simpa using given)
  · exact fixed part (completions_subset stay added)

theorem segments_readdress (cut : segments cookie = first :: rest) (filled : first ≠ [])
    (given : host ≠ "") (whole : ';' ∉ host.toList) (unpadded : Text.Unpadded host.toList)
    {stay : List (List Char)} (stays : rest.filter (fun part => Stays part) = stay) :
    segments (readdress cookie host) = first :: (stay ++ additions host stay) := by
  have all := readdressParts_eq_additions cut filled given stay stays
  have firstUnpadded : Text.Unpadded first :=
    unpadded_of_mem_segments (cut ▸ List.mem_cons_self)
  have restUnpadded : ∀ part ∈ stay ++ additions host stay, Text.Unpadded part := by
    intro part mem
    rcases List.mem_append.1 mem with inStay | inAdded
    · rw [← stays] at inStay
      exact unpadded_of_mem_segments (cut ▸ List.mem_cons_of_mem _ (List.mem_filter.1 inStay).1)
    · exact unpadded_of_mem_additions given unpadded inAdded
  rw [segments, pieces_readdress whole all, List.map_cons, List.map_map,
    Text.trimChars_of_unpadded firstUnpadded]
  congr 1
  refine List.map_congr_left (g := id) ?_ |>.trans (List.map_id _)
  intro part mem
  exact (trimChars_space part).trans (Text.trimChars_of_unpadded (restUnpadded part mem))

theorem exists_named (name text : String) {attributes added : List (List Char)}
    (named : attributeName text.toList = name.toList)
    (adds : ∀ part ∈ missing name text attributes, part ∈ added) :
    ∃ part ∈ attributes ++ added, attributeName part = name.toList := by
  by_cases found : ∃ part ∈ attributes, attributeName part = name.toList
  · obtain ⟨part, mem, isName⟩ := found
    exact ⟨part, List.mem_append_left _ mem, isName⟩
  · have new : text.toList ∈ missing name text attributes := by simp [missing, found]
    exact ⟨text.toList, List.mem_append_right _ (adds _ new), named⟩

theorem filter_domain_eq (host : String) {stay : List (List Char)}
    (stays : ∀ part ∈ stay, Stays part) :
    (stay ++ additions host stay).filter (attributeName · = "domain".toList) =
      [domainPart host.toList] := by
  have noneStays : stay.filter (attributeName · = "domain".toList) = [] := by
    rw [List.filter_eq_nil_iff]
    intro part mem
    rw [decide_eq_true_iff]
    exact (stays part mem).2.1
  have noneMissing (name text : String) (other : attributeName text.toList ≠ "domain".toList) :
      (missing name text stay).filter (attributeName · = "domain".toList) = [] := by
    rw [List.filter_eq_nil_iff]
    intro part mem
    rw [attributeName_of_mem_missing mem, decide_eq_true_iff]
    exact other
  rw [additions, List.filter_append, noneStays, List.nil_append,
    List.filter_cons_of_pos (by simp [attributeName_domainPart]), List.filter_append,
    List.filter_append, noneMissing _ _ (by decide), noneMissing _ _ (by decide),
    noneMissing _ _ (by decide)]
  rfl

/-- A cookie is handed on with its attributes in order, less the domain and the two site policies;
behind them stand the host as the one domain and whichever of path, site policy and secure flag is
missing. -/
theorem readdress_keeps_and_adds (cut : segments cookie = first :: rest) (filled : first ≠ [])
    (given : host ≠ "") (whole : ';' ∉ host.toList) (unpadded : Text.Unpadded host.toList) :
    let stay := rest.filter fun part => Stays part
    let attributes := stay ++ domainPart host.toList :: (missing "path" "Path=/" stay ++
      missing "samesite" "SameSite=None" stay ++ missing "secure" "Secure" stay)
    segments (readdress cookie host) = first :: attributes ∧
    attributes.filter (attributeName · = "domain".toList) = [domainPart host.toList] ∧
    (∀ name ∈ ["path", "samesite", "secure"],
      ∃ part ∈ attributes, attributeName part = name.toList) ∧
    ∀ part ∈ attributes, attributeName part = "samesite".toList →
      attributeValue part ≠ "lax".toList ∧ attributeValue part ≠ "strict".toList := by
  intro stay attributes
  have all := readdressParts_eq_additions cut filled given stay rfl
  refine ⟨segments_readdress cut filled given whole unpadded rfl, ?_, ?_, ?_⟩
  · apply filter_domain_eq
    intro part mem
    simpa using (List.mem_filter.1 mem).2
  · intro name mem
    simp only [List.mem_cons, List.not_mem_nil, or_false] at mem
    rcases mem with rfl | rfl | rfl
    · exact exists_named "path" "Path=/" rfl fun part new => by simp [new]
    · exact exists_named "samesite" "SameSite=None" rfl fun part new => by simp [new]
    · exact exists_named "secure" "Secure" rfl fun part new => by simp [new]
  · intro part mem
    have inside : part ∈ (readdressParts (parts cookie) host).drop 1 := by
      rw [all]
      exact mem
    exact (open_of_mem_drop_readdressParts inside).site

theorem readdress_keeps_and_adds_session :
    let cookie := "sid=1 ;; Domain=b; HttpOnly; samesite = STRICT;PATH=/x"
    segments cookie =
      ["sid=1", "", "Domain=b", "HttpOnly", "samesite = STRICT", "PATH=/x"].map String.toList ∧
    segments (readdress cookie "h.example") =
      ["sid=1", "HttpOnly", "PATH=/x", "Domain=h.example", "SameSite=None", "Secure"].map
        String.toList := by
  intro cookie
  have cut : segments cookie =
      ["sid=1", "", "Domain=b", "HttpOnly", "samesite = STRICT", "PATH=/x"].map String.toList := by
    decide +kernel
  have unpadded : Text.Unpadded "h.example".toList := by decide
  have handed := readdress_keeps_and_adds cut (by decide) (by decide) (by decide) unpadded
  exact ⟨cut, handed.1.trans (by decide +kernel)⟩

end RefData.Proxy.Cookie
