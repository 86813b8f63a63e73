import RefData.Proofs.Http.Headers
import RefData.Proxy.Filter
set_option autoImplicit false

namespace RefData.Proxy

open Http Http.Headers

theorem legible_of_readable? {field : Option String} {value : String}
    (read : field.bind readable? = some value) : Legible value.toList := by
  obtain ⟨text, _, read⟩ := Option.bind_eq_some_iff.1 read
  simp only [readable?, Option.ite_none_right_eq_some, Option.some.injEq] at read
  obtain ⟨readable, rfl⟩ := read
  exact isReadable_iff.1 readable

theorem legible_servingHost (incoming : Headers) : Legible (servingHost incoming) := by
  simp only [servingHost]
  split
  next value read =>
    apply (legible_of_readable? read).of_subset
    intro c mem
    exact (List.takeWhile_sublist _).subset (Text.mem_of_mem_trimChars mem)
  next => simp [Legible]

theorem stripPort_subset (host : List Char) : stripPort host ⊆ host := by
  unfold stripPort
  split
  next rest => exact List.subset_cons_of_subset _ (List.takeWhile_sublist _).subset
  next =>
    split
    next name number split =>
      rw [Text.splitLast?_eq split]
      split
      · exact List.subset_append_left _ _
      · exact List.Subset.refl _
    next => exact List.Subset.refl _

theorem legible_cookieHost (incoming : Headers) : Legible (cookieHost incoming).toList := by
  rw [cookieHost, String.toList_ofList]
  exact (legible_servingHost incoming).of_subset (stripPort_subset _)

namespace Cookie

def attributes (cookie : String) : List (List Char) :=
  (Text.pieces (· == ';') cookie.toList).drop 1

theorem of_mem_parts {cookie : String} {part : List Char} (mem : part ∈ parts cookie) :
    ';' ∉ part ∧ part ⊆ cookie.toList := by
  obtain ⟨piece, isPiece, rfl⟩ := List.mem_map.1 (List.mem_filter.1 mem).1
  constructor
  · intro inside
    have divides := Text.not_divides_of_mem_pieces isPiece (Text.mem_of_mem_trimChars inside)
    simp at divides
  · intro c inside
    exact (Text.not_divides_of_mem_pieces isPiece (Text.mem_of_mem_trimChars inside)).2

def domainPart (host : List Char) : List Char := "Domain=".toList ++ host

def fixedParts : List (List Char) :=
  ["Path=/".toList, "SameSite=None".toList, "Secure".toList]

def addedParts (host : List Char) : List (List Char) := domainPart host :: fixedParts

def missing (name text : String) (attributes : List (List Char)) : List (List Char) :=
  if ∃ part ∈ attributes, attributeName part = name.toList then [] else [text.toList]

theorem missing_subset (name text : String) (attributes : List (List Char)) :
    missing name text attributes ⊆ [text.toList] := by
  unfold missing
  split
  · exact List.nil_subset _
  · exact List.Subset.refl _

theorem ensure_eq_append (name text : String) (parts : List (List Char)) :
    ensure name text parts = parts ++ missing name text (parts.drop 1) := by
  have named : (parts.drop 1).any (attributeName · == name.toList) = true ↔
      ∃ part ∈ parts.drop 1, attributeName part = name.toList := by
    simp [List.any_eq_true]
  simp only [ensure, missing, named]
  split
  · rw [List.append_nil]
  · rfl

theorem ensure_eq (name text : String) (parts : List (List Char)) :
    ∃ added, added ⊆ [text.toList] ∧ ensure name text parts = parts ++ added :=
  ⟨_, missing_subset name text _, ensure_eq_append name text parts⟩

def kept (parts : List (List Char)) : List (List Char) :=
  parts.take 1 ++ (parts.drop 1).filter fun part => !isConfining part

theorem readdressParts_eq (parts : List (List Char)) (host : String) :
    ∃ added, added ⊆ addedParts host.toList ∧
      readdressParts parts host = kept parts ++ added := by
  obtain ⟨domain, isDomain, placed⟩ : ∃ domain : List (List Char), domain ⊆ [domainPart host.toList] ∧
      (if host.isEmpty then kept parts else kept parts ++ [domainPart host.toList]) =
        kept parts ++ domain := by
    split
    · exact ⟨[], List.nil_subset _, (List.append_nil _).symm⟩
    · exact ⟨[domainPart host.toList], List.Subset.refl _, rfl⟩
  obtain ⟨path, isPath, withPath⟩ := ensure_eq "path" "Path=/" (kept parts ++ domain)
  obtain ⟨site, isSite, withSite⟩ :=
    ensure_eq "samesite" "SameSite=None" (kept parts ++ domain ++ path)
  obtain ⟨secure, isSecure, withSecure⟩ :=
    ensure_eq "secure" "Secure" (kept parts ++ domain ++ path ++ site)
  refine ⟨domain ++ path ++ site ++ secure, ?_, ?_⟩
  · intro part mem
    simp only [List.mem_append] at mem
    rcases mem with ((inDomain | inPath) | inSite) | inSecure
    · simp [addedParts, List.mem_singleton.1 (isDomain inDomain)]
    · simp [addedParts, fixedParts, List.mem_singleton.1 (isPath inPath)]
    · simp [addedParts, fixedParts, List.mem_singleton.1 (isSite inSite)]
    · simp [addedParts, fixedParts, List.mem_singleton.1 (isSecure inSecure)]
  · change ensure _ _ (ensure _ _ (ensure _ _ (if host.isEmpty then kept parts
      else kept parts ++ [domainPart host.toList]))) = _
    rw [placed, withPath, withSite, withSecure]
    simp only [List.append_assoc]

theorem mem_of_mem_kept {parts : List (List Char)} {part : List Char} (mem : part ∈ kept parts) :
    part ∈ parts := by
  rcases List.mem_append.1 mem with first | later
  · exact List.mem_of_mem_take first
  · exact List.mem_of_mem_drop (List.mem_filter.1 later).1

theorem mem_drop_readdressParts {parts : List (List Char)} {host : String} {part : List Char}
    (mem : part ∈ (readdressParts parts host).drop 1) :
    isConfining part = false ∨ part ∈ addedParts host.toList := by
  obtain ⟨added, isAdded, same⟩ := readdressParts_eq parts host
  rw [same] at mem
  cases parts with
  | nil => exact .inr (isAdded (List.mem_of_mem_drop mem))
  | cons first rest =>
    have mem : part ∈ rest.filter (fun part => !isConfining part) ++ added := by
      simpa [kept] using mem
    rcases List.mem_append.1 mem with inRest | inAdded
    · exact .inl (by simpa using (List.mem_filter.1 inRest).2)
    · exact .inr (isAdded inAdded)

theorem legible_readdress {cookie host : String} (readable : Legible cookie.toList)
    (named : Legible host.toList) : Legible (readdress cookie host).toList := by
  obtain ⟨added, isAdded, same⟩ := readdressParts_eq (parts cookie) host
  rw [readdress, String.toList_ofList, same]
  apply Legible.joinWith
  · simp [Legible]
  · intro part mem
    rcases List.mem_append.1 mem with inKept | inAdded
    · exact readable.of_subset (of_mem_parts (mem_of_mem_kept inKept)).2
    · rcases List.mem_cons.1 (isAdded inAdded) with rfl | isFixed
      · exact Legible.append (by simp [Legible]) named
      · have fixed : ∀ part ∈ fixedParts, Legible part := by simp [fixedParts, Legible]
        exact fixed part isFixed

theorem pieces_readdress {cookie host : String} (whole : ';' ∉ host.toList) {first : List Char}
    {rest : List (List Char)} (all : readdressParts (parts cookie) host = first :: rest) :
    Text.pieces (· == ';') (readdress cookie host).toList = first :: rest.map (' ' :: ·) := by
  obtain ⟨added, isAdded, same⟩ := readdressParts_eq (parts cookie) host
  have undivided : ∀ part ∈ readdressParts (parts cookie) host, ∀ d ∈ part, (d == ';') = false := by
    intro part mem d inside
    have absent : ';' ∉ part := by
      rw [same] at mem
      rcases List.mem_append.1 mem with inKept | inAdded
      · exact (of_mem_parts (mem_of_mem_kept inKept)).1
      · rcases List.mem_cons.1 (isAdded inAdded) with rfl | isFixed
        · intro mem
          rcases List.mem_append.1 mem with inName | inHost
          · exact absurd inName (by decide)
          · exact whole inHost
        · have fixed : ∀ part ∈ fixedParts, ';' ∉ part := by decide
          exact fixed part isFixed
    exact beq_false_of_ne fun isSep => absent (isSep ▸ inside)
  rw [all] at undivided
  rw [readdress, String.toList_ofList, all, Text.pieces_joinWith (by rfl) (by simp) undivided]
  rfl

theorem attributes_readdress {cookie host : String} (whole : ';' ∉ host.toList) :
    attributes (readdress cookie host) =
      ((readdressParts (parts cookie) host).drop 1).map (' ' :: ·) := by
  cases all : readdressParts (parts cookie) host with
  | nil =>
    rw [attributes, readdress, all]
    rfl
  | cons first rest =>
    rw [attributes, pieces_readdress whole all]
    rfl

theorem trimChars_space (cs : List Char) : Text.trimChars (' ' :: cs) = Text.trimChars cs := by
  have blank : Text.isBlank ' ' = true := by decide
  simp [Text.trimChars, blank]

theorem attributeName_space (part : List Char) :
    attributeName (' ' :: part) = attributeName part := by
  have space : (' ' != '=') = true := by decide
  simp only [attributeName, List.takeWhile_cons, space, if_true, trimChars_space]

theorem attributeValue_space (part : List Char) :
    attributeValue (' ' :: part) = attributeValue part := by
  have first : ['='].isPrefixOf (' ' :: part) = false := by simp [List.isPrefixOf]
  simp only [attributeValue, Text.splitFirst?, first]
  cases Text.splitFirst? ['='] part <;> rfl

theorem attributeName_domainPart (host : List Char) :
    attributeName (domainPart host) = "domain".toList := rfl

theorem attributeValue_domainPart (host : List Char) :
    attributeValue (domainPart host) = (Text.trimChars host).map Char.toLower := rfl

-- An attribute that says no more about domain and site than that the cookie is for the host.
structure Open (host part : List Char) : Prop where
  domain : attributeName part = "domain".toList →
    attributeValue part = (Text.trimChars host).map Char.toLower
  site : attributeName part = "samesite".toList →
    attributeValue part ≠ "lax".toList ∧ attributeValue part ≠ "strict".toList

theorem open_of_not_confining {host part : List Char} (free : isConfining part = false) :
    Open host part := by
  simp only [isConfining, Bool.or_eq_false_iff, Bool.and_eq_false_imp, beq_eq_false_iff_ne,
    beq_iff_eq] at free
  exact ⟨fun named => absurd named free.1, free.2⟩

theorem open_of_mem_drop_readdressParts {parts : List (List Char)} {host : String}
    {part : List Char} (mem : part ∈ (readdressParts parts host).drop 1) :
    Open host.toList part := by
  rcases mem_drop_readdressParts mem with free | added
  · exact open_of_not_confining free
  · rcases List.mem_cons.1 added with rfl | isFixed
    · refine ⟨fun _ => attributeValue_domainPart _, fun named => ?_⟩
      rw [attributeName_domainPart] at named
      exact absurd named (by decide)
    · have fixed : ∀ part ∈ fixedParts, isConfining part = false := by decide
      exact open_of_not_confining (fixed part isFixed)

theorem open_attributes_readdress {cookie host : String} (whole : ';' ∉ host.toList)
    {part : List Char} (mem : part ∈ attributes (readdress cookie host)) :
    Open host.toList part := by
  rw [attributes_readdress whole] at mem
  obtain ⟨inner, isPart, rfl⟩ := List.mem_map.1 mem
  obtain ⟨domain, site⟩ := open_of_mem_drop_readdressParts isPart
  constructor
  · rwa [attributeName_space, attributeValue_space]
  · rwa [attributeName_space, attributeValue_space]

end Cookie

end RefData.Proxy
