import RefData.Proofs.Http.Headers
import RefData.Proofs.Url.Address
set_option autoImplicit false

namespace RefData.Url

open Http.Headers

theorem legible_digitChar (d : Nat) : Legible [d.digitChar] := by
  intro c mem
  rw [List.mem_singleton.1 mem]
  by_cases small : d < 16
  · clear mem
    revert small d
    decide
  · rw [Nat.digitChar_eq_star.2 (by omega)]
    decide

theorem legible_toDigits {base : Nat} (base_gt : 1 < base) (n : Nat) :
    Legible (Nat.toDigits base n) := by
  induction n using Nat.strongRecOn with
  | ind n ih =>
    rw [Nat.toDigits_eq_if base_gt]
    split
    · exact legible_digitChar n
    · have smaller : n / base < n := Nat.div_lt_self (by omega) base_gt
      exact (ih _ smaller).append (legible_digitChar _)

namespace Punycode

theorem legible_ofNat {n : Nat} (low : 0x20 ≤ n) (high : n ≤ 0x7E) : Legible [Char.ofNat n] := by
  have valid : n.isValidChar := .inl (by omega)
  have same : (Char.ofNat n).toNat = n := by
    rw [Char.ofNat, dif_pos valid]
    rfl
  intro c mem
  rw [List.mem_singleton.1 mem, same]
  exact .inr ⟨low, high⟩

theorem legible_punycodeDigit {d : Nat} (digit : d < base) : Legible [digitChar d] := by
  simp only [base] at digit
  unfold digitChar
  split
  · exact legible_ofNat (by simp) (by simp; omega)
  · exact legible_ofNat (by simp) (by simp; omega)

theorem threshold_le (position bias : Nat) : threshold position bias ≤ 26 := by
  unfold threshold
  split
  · omega
  · split <;> omega

theorem legible_writeNumber (bias position n : Nat) : Legible (writeNumber bias position n) := by
  induction position, n using writeNumber.induct bias with
  | case1 position n t small =>
    have high : t ≤ 26 := threshold_le position bias
    rw [writeNumber, if_pos small]
    exact legible_punycodeDigit (by simp only [base]; omega)
  | case2 position n t large ih =>
    have high : t ≤ 26 := threshold_le position bias
    have digit : (n - t) % (base - t) < base - t := Nat.mod_lt _ (by simp only [base]; omega)
    rw [writeNumber, if_neg large]
    exact (legible_punycodeDigit (show t + (n - t) % (base - t) < base by omega)).append ih

theorem legible_writePoint {basic point : Nat} {label : List Char} {w : Writing}
    (legible : Legible w.digits) : Legible (writePoint basic point label w).digits := by
  unfold writePoint
  induction label generalizing w with
  | nil => exact legible
  | cons c rest ih =>
    apply ih
    beta_reduce
    split
    · exact legible
    · split
      · exact legible.append (legible_writeNumber _ _ _)
      · exact legible

theorem legible_encode {label : List Char} (basic : Legible (label.filter fun c => c.toNat < 0x80)) :
    Legible (encode label) := by
  have digits (points : List Nat) (start : Writing × Nat) (legible : Legible start.1.digits) :
      Legible (points.foldl (fun acc point =>
        let w := { acc.1 with delta := acc.1.delta + (point - acc.2) * (acc.1.length + 1) }
        let w := writePoint (label.filter fun c => c.toNat < firstPoint).length point label w
        ({ w with delta := w.delta + 1 }, point + 1)) start).1.digits := by
    induction points generalizing start with
    | nil => exact legible
    | cons point rest ih => exact ih _ (legible_writePoint legible)
  refine (basic.append ?_).append (digits _ _ (by simp [Legible]))
  split <;> simp [Legible]

end Punycode

theorem legible_of_allowed {cs : List Char} (ascii : Label.isAscii cs = true)
    (allowed : ∀ c ∈ cs, forbiddenInDomain c = false) : Legible cs := by
  intro c mem
  have below : c.toNat < 0x80 := by simpa using List.all_eq_true.1 ascii c mem
  have allowed := allowed c mem
  simp only [forbiddenInDomain, Bool.or_eq_false_iff, decide_eq_false_iff_not, beq_eq_false_iff_ne]
    at allowed
  exact .inr ⟨by omega, by omega⟩

theorem isAscii_of_marked {text : List Char} (marked : Label.marker.isPrefixOf text = true)
    (ascii : Label.isAscii (text.drop Label.marker.length) = true) : Label.isAscii text = true := by
  obtain ⟨encoded, rfl⟩ := List.isPrefixOf_iff_prefix.1 marked
  rw [List.drop_left] at ascii
  simp only [Label.isAscii, List.all_append, Bool.and_eq_true] at ascii ⊢
  exact ⟨by decide, ascii⟩

theorem legible_written {text : List Char} {label : Label}
    (allowed : ∀ c ∈ text, forbiddenInDomain c = false) (made : Label.ofText? text = some label) :
    Legible label.written := by
  unfold Label.ofText? at made
  split at made
  next marked =>
    simp only [Option.bind_eq_bind] at made
    split at made
    · cases made
    next plain =>
      obtain ⟨name, _, made⟩ := Option.bind_eq_some_iff.1 made
      split at made
      · cases made
        refine legible_of_allowed (isAscii_of_marked marked ?_) allowed
        simp only [Bool.or_eq_true, Bool.not_eq_eq_eq_not, Bool.not_true, not_or] at plain
        simpa using plain.1.1
      · cases made
  next =>
    split at made
    · cases made
    · split at made
      next ascii =>
        cases made
        exact legible_of_allowed ascii allowed
      next =>
        cases made
        have marker : Legible Label.marker := by simp [Legible, Label.marker]
        refine marker.append (Punycode.legible_encode ?_)
        apply legible_of_allowed
        · simp [Label.isAscii]
        · exact fun c mem => allowed c (List.mem_filter.1 mem).1

theorem allowed_of_domainForm {cs mapped : List Char} (formed : domainForm cs = some mapped) :
    ∀ c ∈ mapped, forbiddenInDomain c = false := by
  simp only [domainForm, Option.bind_eq_bind, Option.bind_eq_some_iff] at formed
  obtain ⟨_, _, formed⟩ := formed
  split at formed
  · cases formed
  next allowed =>
    cases formed
    simpa using allowed

theorem legible_of_mapM_ofText? {texts : List (List Char)} {labels : List Label}
    (allowed : ∀ text ∈ texts, ∀ c ∈ text, forbiddenInDomain c = false)
    (made : texts.mapM Label.ofText? = some labels) :
    ∀ written ∈ labels.map Label.written, Legible written := by
  induction texts generalizing labels with
  | nil =>
    cases made
    simp
  | cons text texts ih =>
    simp only [List.mapM_cons, Option.bind_eq_bind, Option.bind_eq_some_iff] at made
    obtain ⟨label, first, rest, later, same⟩ := made
    cases same
    rw [List.map_cons, List.forall_mem_cons]
    exact ⟨legible_written (allowed text List.mem_cons_self) first,
      ih (fun other mem => allowed other (List.mem_cons_of_mem text mem)) later⟩

theorem legible_asciiDomain? {cs name : List Char} (made : asciiDomain? cs = some name) :
    Legible name := by
  unfold asciiDomain? at made
  obtain ⟨mapped, formed, made⟩ := Option.bind_eq_some_iff.1 made
  obtain ⟨labels, each, made⟩ := Option.bind_eq_some_iff.1 made
  split at made
  · cases made
  · cases made
    apply Legible.joinWith (by simp [Legible])
    refine legible_of_mapM_ofText? (fun text isPiece c mem => ?_) each
    exact allowed_of_domainForm formed c (Text.not_divides_of_mem_pieces isPiece mem).2

theorem legible_ipv4Text (address : Nat) : Legible (ipv4Text address) := by
  apply Legible.joinWith (by simp [Legible])
  intro part mem
  obtain ⟨n, _, rfl⟩ := List.mem_map.1 mem
  exact legible_toDigits (by decide) n

theorem legible_ipv6Text (groups : List Nat) : Legible (ipv6Text groups) := by
  have hex (gs : List Nat) : Legible (Text.joinWith [':'] (gs.map (Nat.toDigits 16))) := by
    apply Legible.joinWith (by simp [Legible])
    intro part mem
    obtain ⟨n, _, rfl⟩ := List.mem_map.1 mem
    exact legible_toDigits (by decide) n
  unfold ipv6Text
  split
  · exact hex groups
  · exact ((hex _).append (by simp [Legible])).append (hex _)

theorem legible_bracketed {cs : List Char} {host : Host} (read : bracketed cs = .ok host) :
    Legible host.text := by
  unfold bracketed at read
  split at read
  · obtain ⟨groups, _, rfl⟩ := of_map_eq_ok read
    have mark : Legible ['['] ∧ Legible [']'] := by simp [Legible]
    exact mark.1.append ((legible_ipv6Text groups).append mark.2)
  · cases read

theorem legible_parseHost {cs : List Char} {host : Host} (read : parseHost cs = .ok host) :
    Legible host.text := by
  unfold parseHost at read
  split at read
  · exact legible_bracketed read
  · split at read
    · cases read
    · cases read
    next name _ made =>
      obtain ⟨bytes, _, made⟩ := Option.bind_eq_some_iff.1 made
      split at read
      · obtain ⟨address, _, rfl⟩ := of_map_eq_ok read
        exact legible_ipv4Text address
      · cases read
        rw [Host.text, String.toList_ofList]
        exact legible_asciiDomain? made

theorem legible_portText (u : Url) : Legible u.portText := by
  unfold portText
  split
  · have colon : Legible [':'] := by simp [Legible]
    exact colon.append (legible_toDigits (by decide) _)
  · simp [Legible]

theorem legible_scheme {scheme : String} (special : isSpecial scheme = true) :
    Legible scheme.toList := by
  simp only [isSpecial, List.contains_eq_mem, List.mem_cons, List.not_mem_nil, or_false,
    decide_eq_true_eq] at special
  rcases special with rfl | rfl | rfl | rfl | rfl | rfl <;> simp [Legible]

theorem legible_origin {text : String} {u : Url} (read : parse text = .ok u) :
    Legible u.origin.toList := by
  have null : Legible "null".toList := by simp [Legible]
  obtain ⟨scheme, rest, _, read⟩ := parse_eq_ok_iff.1 read
  have sameScheme : u.scheme = scheme := parseBehind_scheme read
  unfold origin
  split
  next host hosted =>
    split
    next sited =>
      simp only [Bool.and_eq_true, bne_iff_ne, ne_eq, sameScheme] at sited
      simp only [parseBehind, if_neg sited.2, if_pos sited.1] at read
      obtain ⟨a, found, rfl⟩ := parseAuthority_eq_ok_iff.1 read
      obtain ⟨hostText, parsed⟩ := readAuthority_host sited.1 found
      cases hosted
      have mark : Legible "://".toList := by simp [Legible]
      rw [String.toList_ofList, sameScheme]
      exact (((legible_scheme sited.1).append mark).append (legible_parseHost parsed)).append
        (legible_portText _)
    next => exact null
  next => exact null

end RefData.Url
