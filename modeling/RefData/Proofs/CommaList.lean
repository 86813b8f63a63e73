import Mathlib.Data.Finset.Dedup
import RefData.Catalog.Source
import RefData.Exchange.Session
import RefData.Proofs.Dict
import RefData.Proofs.Record.Text
set_option autoImplicit false

namespace RefData

namespace Text

def Pads (word entry : String) : Prop :=
  ∃ before behind : String, before.toList.all isBlank ∧ behind.toList.all isBlank ∧
    entry = before ++ word ++ behind

variable {word entry : String}

theorem Pads.trimChars_eq (pads : Pads word entry) (unpadded : Unpadded word.toList) :
    trimChars entry.toList = word.toList := by
  obtain ⟨before, behind, blankBefore, blankBehind, rfl⟩ := pads
  rw [String.toList_append, String.toList_append]
  exact trimChars_padded (List.all_eq_true.1 blankBefore) unpadded (List.all_eq_true.1 blankBehind)

theorem Pads.clear (pads : Pads word entry) (clear : ',' ∉ word.toList) : ',' ∉ entry.toList := by
  have solid : isBlank ',' = false := by decide
  obtain ⟨before, behind, blankBefore, blankBehind, rfl⟩ := pads
  simp only [String.toList_append, List.mem_append, not_or]
  refine ⟨⟨fun mem => ?_, clear⟩, fun mem => ?_⟩
  · simpa [solid] using List.all_eq_true.1 blankBefore _ mem
  · simpa [solid] using List.all_eq_true.1 blankBehind _ mem

theorem commaPieces_append (a b : String) :
    commaPieces (a ++ "," ++ b) = commaPieces a ++ commaPieces b := by
  rw [commaPieces, String.append_assoc, String.toList_append, String.toList_append]
  change (pieces _ (a.toList ++ ',' :: b.toList)).map _ = _
  rw [pieces_append_cons (by decide), List.map_append]
  rfl

theorem commaPieces_of_clear (clear : ',' ∉ entry.toList) : commaPieces entry = [entry] := by
  have none : ∀ c ∈ entry.toList, (c == ',') = false := by
    intro c mem
    rw [beq_eq_false_iff_ne]
    rintro rfl
    exact clear mem
  rw [commaPieces, pieces_of_none none, List.map_singleton, String.ofList_toList]

theorem clear_of_mem_commaPieces {text : String} (mem : entry ∈ commaPieces text) :
    ',' ∉ entry.toList := by
  obtain ⟨piece, listed, rfl⟩ := List.mem_map.1 mem
  rw [String.toList_ofList]
  intro comma
  simpa using (not_divides_of_mem_pieces listed comma).1

-- Entries that stand for values, in the order of these, and others between them that are skipped.
inductive Listed {α : Type} (writes : α → String → Prop) (skipped : String → Prop) :
    List α → List String → Prop
  | nil : Listed writes skipped [] []
  | entry {x : α} {xs : List α} {e : String} {es : List String} (here : writes x e)
      (rest : Listed writes skipped xs es) : Listed writes skipped (x :: xs) (e :: es)
  | skip {xs : List α} {e : String} {es : List String} (here : skipped e)
      (rest : Listed writes skipped xs es) : Listed writes skipped xs (e :: es)

def readEntries {α : Type} (read : String → Option α) (text : String) : List α :=
  (commaPieces text).filterMap read

section readEntries

variable {α : Type} {read : String → Option α}

theorem readEntries_append (read : String → Option α) (a b : String) :
    readEntries read (a ++ "," ++ b) = readEntries read a ++ readEntries read b := by
  rw [readEntries, commaPieces_append, List.filterMap_append]
  rfl

theorem readEntries_of_clear (clear : ',' ∉ entry.toList) :
    readEntries read entry = (read entry).toList := by
  rw [readEntries, commaPieces_of_clear clear]
  cases here : read entry <;> simp [here]

-- No entries at all and one empty entry are the same text.
theorem readEntries_intercalate (nothing : read "" = none) {entries : List String}
    (clear : ∀ e ∈ entries, ',' ∉ e.toList) :
    readEntries read (",".intercalate entries) = entries.filterMap read := by
  induction entries with
  | nil =>
    rw [String.intercalate_nil, readEntries_of_clear (by simp), nothing]
    rfl
  | cons e rest ih =>
    obtain ⟨here, later⟩ := List.forall_mem_cons.1 clear
    have first (rest : List String) :
        (e :: rest).filterMap read = readEntries read e ++ rest.filterMap read := by
      rw [readEntries_of_clear here]
      cases given : read e <;> simp [given]
    cases rest with
    | nil => rw [String.intercalate_singleton, first, List.filterMap_nil, List.append_nil]
    | cons next rest => rw [String.intercalate_cons_cons, readEntries_append, ih later, first]

theorem Listed.reads {writes : α → String → Prop} {skipped : String → Prop} {xs : List α}
    {es : List String} (listed : Listed writes skipped xs es)
    (reads : ∀ x ∈ xs, ∀ e, writes x e → ',' ∉ e.toList ∧ read e = some x)
    (skips : ∀ e, skipped e → ',' ∉ e.toList ∧ read e = none) :
    (∀ e ∈ es, ',' ∉ e.toList) ∧ es.filterMap read = xs := by
  induction listed with
  | nil => exact ⟨by simp, rfl⟩
  | entry here rest ih =>
    obtain ⟨readsHere, readsLater⟩ := List.forall_mem_cons.1 reads
    obtain ⟨clear, given⟩ := readsHere _ here
    obtain ⟨clearLater, later⟩ := ih readsLater
    rw [List.filterMap_cons_some given, later]
    exact ⟨List.forall_mem_cons.2 ⟨clear, clearLater⟩, rfl⟩
  | skip here rest ih =>
    obtain ⟨clear, none⟩ := skips _ here
    obtain ⟨clearLater, later⟩ := ih reads
    rw [List.filterMap_cons_none none, later]
    exact ⟨List.forall_mem_cons.2 ⟨clear, clearLater⟩, rfl⟩

theorem readEntries_skip (clear : ',' ∉ entry.toList) (none : read entry = none) (a b : String) :
    readEntries read (a ++ "," ++ entry ++ "," ++ b) = readEntries read (a ++ "," ++ b) ∧
      readEntries read (entry ++ "," ++ b) = readEntries read b ∧
      readEntries read (a ++ "," ++ entry) = readEntries read a := by
  have nothing : readEntries read entry = [] := by
    rw [readEntries_of_clear clear, none]
    rfl
  simp only [readEntries_append, nothing, List.append_nil, List.nil_append, and_self]

end readEntries

end Text

namespace Department

def readId? (entry : String) : Option Int := readInt64? (Text.trimChars entry.toList)

theorem parseIds_str (text : String) :
    parseIds (some (.str text)) = Text.readEntries readId? text := rfl

def Skips (entry : String) : Prop := ',' ∉ entry.toList ∧ readId? entry = none

theorem readId?_of_pads {n : Int} {entry : String} (low : minInt64 ≤ n) (high : n ≤ maxInt64)
    (pads : Text.Pads (toString n) entry) : ',' ∉ entry.toList ∧ readId? entry = some n := by
  have written : (toString n).toList = intText n := by
    rw [toString_eq_intText, String.toList_ofList]
  have unpadded : Text.Unpadded (toString n).toList := written ▸ Json.unpadded_intText n
  have clear : ',' ∉ (toString n).toList := by
    rw [written]
    exact fun mem => absurd (of_mem_intText mem) (by decide)
  refine ⟨pads.clear clear, ?_⟩
  rw [readId?, pads.trimChars_eq unpadded, written, readInt64?_intText low high]

end Department

namespace Permissions

structure IsTarget (target : String) : Prop where
  filled : target ≠ ""
  unpadded : Text.Unpadded target.toList
  clear : ',' ∉ target.toList

def readTarget? (entry : String) : Option String := Json.nonempty? (Text.trim entry)

def granted (p : Permissions) : Finset String := p.toList.toFinset

theorem targetsOf_eq (text : String) : targetsOf text = Text.readEntries readTarget? text := by
  rw [targetsOf, Text.readEntries, List.filter_map, ← List.filterMap_eq_map, List.filterMap_filter]
  refine List.filterMap_congr fun entry _ => ?_
  cases blank : (Text.trim entry).isEmpty <;> simp [readTarget?, Json.nonempty?, blank]

theorem can_iff_mem_granted (p : Permissions) (target : String) :
    p.can target ↔ target ∈ p.granted := by
  rw [granted, List.mem_toFinset, toList, Dict.mem_keys]
  rfl

theorem granted_parse (text : Option String) :
    (parse text).granted = (Text.readEntries readTarget? (text.getD "")).toFinset := by
  ext target
  rw [granted, toList, parse, List.mem_toFinset, List.mem_toFinset, Dict.mem_keys_ofList,
    ← targetsOf_eq, List.map_map]
  simp

theorem readTarget?_of_pads {target entry : String} (fits : IsTarget target)
    (pads : Text.Pads target entry) : ',' ∉ entry.toList ∧ readTarget? entry = some target := by
  refine ⟨pads.clear fits.clear, ?_⟩
  rw [readTarget?, Text.trim, pads.trimChars_eq fits.unpadded, String.ofList_toList]
  exact if_neg (by simpa using fits.filled)

theorem readTarget?_of_blank {entry : String} (blank : Text.Pads "" entry) :
    ',' ∉ entry.toList ∧ readTarget? entry = none := by
  refine ⟨blank.clear (by simp), ?_⟩
  rw [readTarget?, Text.trim, blank.trimChars_eq (by decide), String.ofList_toList]
  rfl

theorem IsTarget.exists_solid {target : String} (fits : IsTarget target) :
    ∃ c ∈ target.toList, Text.isBlank c = false := by
  have some : target.toList ≠ [] := by simpa using fits.filled
  obtain ⟨c, rest, whole⟩ := List.exists_cons_of_ne_nil some
  exact ⟨c, by simp [whole], fits.unpadded.1 c (by simp [whole])⟩

theorem isTarget_of_readTarget? {target entry : String} (clear : ',' ∉ entry.toList)
    (read : readTarget? entry = some target) : IsTarget target := by
  rw [readTarget?, Json.nonempty?, Option.ite_none_left_eq_some, Option.some_inj] at read
  obtain ⟨filled, rfl⟩ := read
  rw [Text.trim] at *
  refine ⟨by simpa using filled, ?_, ?_⟩
  · rw [String.toList_ofList]
    exact Text.unpadded_trimChars _
  · rw [String.toList_ofList]
    exact fun mem => clear (Text.mem_of_mem_trimChars mem)

theorem isTarget_of_can {text : Option String} {target : String} (can : (parse text).can target) :
    IsTarget target := by
  rw [can_iff_mem_granted, granted_parse, List.mem_toFinset] at can
  obtain ⟨entry, mem, read⟩ := List.mem_filterMap.1 can
  exact isTarget_of_readTarget? (Text.clear_of_mem_commaPieces mem) read

end Permissions

/-- What is written between commas is what is read. Ids of 64 bits come back in their order, with
their repetitions, whatever else stands between them, and other entries can be put anywhere into any
text. Targets come back as a set, two texts grant what either grants, and nothing else than a target
is ever granted. -/
theorem comma_lists_read_back :
    (∀ (ids : List Int) (entries : List String), (∀ n ∈ ids, minInt64 ≤ n ∧ n ≤ maxInt64) →
      Text.Listed (fun n => Text.Pads (toString n)) Department.Skips ids entries →
        Department.parseIds (some (.str (",".intercalate entries))) = ids) ∧
    (∀ a b entry : String, Department.Skips entry →
      let ids text := Department.parseIds (some (.str text))
      ids (a ++ "," ++ entry ++ "," ++ b) = ids (a ++ "," ++ b) ∧
        ids (entry ++ "," ++ b) = ids b ∧ ids (a ++ "," ++ entry) = ids a) ∧
    (∀ (targets : Finset String) (written entries : List String),
      (∀ t ∈ targets, Permissions.IsTarget t) → written.toFinset = targets →
      Text.Listed Text.Pads (Text.Pads "") written entries →
        (Permissions.parse (some (",".intercalate entries))).granted = targets) ∧
    (∀ a b : String, (Permissions.parse (some (a ++ "," ++ b))).granted =
      (Permissions.parse (some a)).granted ∪ (Permissions.parse (some b)).granted) ∧
    ∀ (text : Option String) (target : String),
      ((Permissions.parse text).can target ↔ target ∈ (Permissions.parse text).granted) ∧
      ((Permissions.parse text).can target →
        Permissions.IsTarget target ∧ ∃ c ∈ target.toList, Text.isBlank c = false) := by
  refine ⟨fun ids entries fit listed => ?_, fun a b entry skips => ?_,
    fun targets written entries fit same listed => ?_, fun a b => ?_, fun text target => ?_⟩
  · obtain ⟨clear, read⟩ := listed.reads
      (fun n mem e pads => Department.readId?_of_pads (fit n mem).1 (fit n mem).2 pads)
      fun e skips => skips
    rw [Department.parseIds_str, Text.readEntries_intercalate (by decide) clear, read]
  · exact Text.readEntries_skip skips.1 skips.2 a b
  · have fits (t : String) (mem : t ∈ written) : Permissions.IsTarget t :=
      fit t (same ▸ List.mem_toFinset.2 mem)
    obtain ⟨clear, read⟩ := listed.reads
      (fun t mem e pads => Permissions.readTarget?_of_pads (fits t mem) pads)
      fun e blank => Permissions.readTarget?_of_blank blank
    rw [Permissions.granted_parse, Option.getD_some,
      Text.readEntries_intercalate (by decide) clear, read, same]
  · simp only [Permissions.granted_parse, Option.getD_some, Text.readEntries_append,
      List.toFinset_append]
  · refine ⟨Permissions.can_iff_mem_granted _ _, fun can => ?_⟩
    have fits := Permissions.isTarget_of_can can
    exact ⟨fits, fits.exists_solid⟩

theorem comma_lists_read_back_of_limits :
    let ids : List Int := [9223372036854775807, -9223372036854775808, 5, 5]
    let entries := [" 9223372036854775807", "x", "-9223372036854775808\t", "", "5", "5 "]
    let targets : Finset String := {"admin", "nsi:read"}
    let written := [" nsi:read", " admin", "", "admin "]
    Department.Skips "x" ∧ (∀ n ∈ ids, minInt64 ≤ n ∧ n ≤ maxInt64) ∧
      Text.Listed (fun n => Text.Pads (toString n)) Department.Skips ids entries ∧
      (∀ t ∈ targets, Permissions.IsTarget t) ∧
      Text.Listed Text.Pads (Text.Pads "") ["nsi:read", "admin", "admin"] written ∧
      Department.parseIds (some (.str (",".intercalate entries))) = ids ∧
      Department.parseIds (some (.str "1,x,2")) = Department.parseIds (some (.str "1,2")) ∧
      (Permissions.parse (some (",".intercalate written))).granted = targets ∧
      (Permissions.parse (some " a,b")).can "a" ∧ Permissions.IsTarget "a" := by
  intro ids entries targets written
  obtain ⟨readIds, insert, readTargets, -, only⟩ := comma_lists_read_back
  have skips : Department.Skips "x" := ⟨by decide, by decide⟩
  have fit : ∀ n ∈ ids, minInt64 ≤ n ∧ n ≤ maxInt64 := by decide
  have listed : Text.Listed (fun n => Text.Pads (toString n)) Department.Skips ids entries :=
    .entry ⟨" ", "", by decide, by decide, by decide⟩ <| .skip skips <|
      .entry ⟨"", "\t", by decide, by decide, by decide⟩ <| .skip ⟨by decide, by decide⟩ <|
      .entry ⟨"", "", by decide, by decide, by decide⟩ <|
      .entry ⟨"", " ", by decide, by decide, by decide⟩ .nil
  have fits : ∀ t ∈ targets, Permissions.IsTarget t := by
    intro t mem
    simp only [targets, Finset.mem_insert, Finset.mem_singleton] at mem
    rcases mem with rfl | rfl <;> exact ⟨by decide, by decide, by decide⟩
  have listedTargets : Text.Listed Text.Pads (Text.Pads "") ["nsi:read", "admin", "admin"]
      written :=
    .entry ⟨" ", "", by decide, by decide, by decide⟩ <|
      .entry ⟨" ", "", by decide, by decide, by decide⟩ <|
      .skip ⟨"", "", by decide, by decide, by decide⟩ <|
      .entry ⟨"", " ", by decide, by decide, by decide⟩ .nil
  have can : (Permissions.parse (some " a,b")).can "a" := by decide
  exact ⟨skips, fit, listed, fits, listedTargets, readIds ids entries fit listed,
    (insert "1" "2" "x" skips).1, readTargets targets _ written fits (by decide) listedTargets,
    can, ((only _ _).2 can).1⟩

end RefData
