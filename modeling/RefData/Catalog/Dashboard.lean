import RefData.Catalog.Section
import RefData.Exchange.Fetch
import RefData.Json.Decode
import RefData.Json.Writer
import RefData.Record.Scalar
set_option autoImplicit false

namespace RefData.Dashboard

-- How completely each section is filled in: all items, and those that have what they should have.

structure SourcesCoverage where
  total : Nat := 0
  withIssuerDateExec : Nat := 0
  deriving DecidableEq

structure TypesCoverage where
  total : Nat := 0
  withShape : Nat := 0
  withComponents : Nat := 0
  deriving DecidableEq

structure ComponentsCoverage where
  total : Nat := 0
  withParams : Nat := 0
  withDefects : Nat := 0
  deriving DecidableEq

structure ParamsCoverage where
  total : Nat := 0
  withUnitsAndBounds : Nat := 0
  deriving DecidableEq

structure DefectsCoverage where
  total : Nat := 0
  withCategoryAndComponent : Nat := 0
  deriving DecidableEq

structure WorksCoverage where
  total : Nat := 0
  withTypePeriodSource : Nat := 0
  deriving DecidableEq

structure Coverage where
  sources : SourcesCoverage := {}
  types : TypesCoverage := {}
  components : ComponentsCoverage := {}
  params : ParamsCoverage := {}
  defects : DefectsCoverage := {}
  works : WorksCoverage := {}
  incomplete : Option Bool := none
  deriving DecidableEq

def counts? (names : List String) (v : Json) : Option (List Nat) := do
  (← v.slots? names 0).mapM (Json.orDefault? 0 Json.nat64?)

def incompleteField (incomplete : Option Bool) : List (String × Json) :=
  (incomplete.map fun b => ("partial", Json.bool b)).toList

namespace SourcesCoverage

def ofJson? (v : Json) : Option SourcesCoverage := do
  match ← counts? ["total", "withIssuerDateExec"] v with
  | [total, dated] => some ⟨total, dated⟩
  | _ => none

def toJson (c : SourcesCoverage) : Json :=
  Json.ofFields [("total", .ofNat c.total), ("withIssuerDateExec", .ofNat c.withIssuerDateExec)]

end SourcesCoverage

namespace TypesCoverage

def ofJson? (v : Json) : Option TypesCoverage := do
  match ← counts? ["total", "withShape", "withComponents"] v with
  | [total, shaped, composed] => some ⟨total, shaped, composed⟩
  | _ => none

def toJson (c : TypesCoverage) : Json :=
  Json.ofFields [
    ("total", .ofNat c.total),
    ("withShape", .ofNat c.withShape),
    ("withComponents", .ofNat c.withComponents)]

end TypesCoverage

namespace ComponentsCoverage

def ofJson? (v : Json) : Option ComponentsCoverage := do
  match ← counts? ["total", "withParams", "withDefects"] v with
  | [total, params, defects] => some ⟨total, params, defects⟩
  | _ => none

def toJson (c : ComponentsCoverage) : Json :=
  Json.ofFields [
    ("total", .ofNat c.total),
    ("withParams", .ofNat c.withParams),
    ("withDefects", .ofNat c.withDefects)]

end ComponentsCoverage

namespace ParamsCoverage

def ofJson? (v : Json) : Option ParamsCoverage := do
  match ← counts? ["total", "withUnitsAndBounds"] v with
  | [total, bounded] => some ⟨total, bounded⟩
  | _ => none

def toJson (c : ParamsCoverage) : Json :=
  Json.ofFields [("total", .ofNat c.total), ("withUnitsAndBounds", .ofNat c.withUnitsAndBounds)]

end ParamsCoverage

namespace DefectsCoverage

def ofJson? (v : Json) : Option DefectsCoverage := do
  match ← counts? ["total", "withCategoryAndComponent"] v with
  | [total, placed] => some ⟨total, placed⟩
  | _ => none

def toJson (c : DefectsCoverage) : Json :=
  Json.ofFields [
    ("total", .ofNat c.total), ("withCategoryAndComponent", .ofNat c.withCategoryAndComponent)]

end DefectsCoverage

namespace WorksCoverage

def ofJson? (v : Json) : Option WorksCoverage := do
  match ← counts? ["total", "withTypePeriodSource"] v with
  | [total, planned] => some ⟨total, planned⟩
  | _ => none

def toJson (c : WorksCoverage) : Json :=
  Json.ofFields [("total", .ofNat c.total), ("withTypePeriodSource", .ofNat c.withTypePeriodSource)]

end WorksCoverage

namespace Coverage

def ofJson? (v : Json) : Option Coverage := do
  let names := ["sources", "types", "components", "params", "defects", "works", "partial"]
  match ← v.slots? names 0 with
  | [sources, types, components, params, defects, works, incomplete] =>
    return {
      sources := ← Json.orDefault? {} SourcesCoverage.ofJson? sources
      types := ← Json.orDefault? {} TypesCoverage.ofJson? types
      components := ← Json.orDefault? {} ComponentsCoverage.ofJson? components
      params := ← Json.orDefault? {} ParamsCoverage.ofJson? params
      defects := ← Json.orDefault? {} DefectsCoverage.ofJson? defects
      works := ← Json.orDefault? {} WorksCoverage.ofJson? works
      incomplete := ← Json.nullable? Json.bool? incomplete }
  | _ => none

def toJson (c : Coverage) : Json :=
  Json.ofFields ([
    ("sources", c.sources.toJson),
    ("types", c.types.toJson),
    ("components", c.components.toJson),
    ("params", c.params.toJson),
    ("defects", c.defects.toJson),
    ("works", c.works.toJson)] ++ incompleteField c.incomplete)

end Coverage

structure RelationCounts where
  sources : Nat := 0
  types : Nat := 0
  components : Nat := 0
  params : Nat := 0
  defects : Nat := 0
  works : Nat := 0
  incomplete : Option Bool := none
  deriving DecidableEq

namespace RelationCounts

def ofJson? (v : Json) : Option RelationCounts := do
  let names := ["sources", "types", "components", "params", "defects", "works", "partial"]
  match ← v.slots? names 0 with
  | [sources, types, components, params, defects, works, incomplete] =>
    return {
      sources := ← Json.orDefault? 0 Json.nat64? sources
      types := ← Json.orDefault? 0 Json.nat64? types
      components := ← Json.orDefault? 0 Json.nat64? components
      params := ← Json.orDefault? 0 Json.nat64? params
      defects := ← Json.orDefault? 0 Json.nat64? defects
      works := ← Json.orDefault? 0 Json.nat64? works
      incomplete := ← Json.nullable? Json.bool? incomplete }
  | _ => none

def toJson (c : RelationCounts) : Json :=
  Json.ofFields ([
    ("sources", .ofNat c.sources),
    ("types", .ofNat c.types),
    ("components", .ofNat c.components),
    ("params", .ofNat c.params),
    ("defects", .ofNat c.defects),
    ("works", .ofNat c.works)] ++ incompleteField c.incomplete)

end RelationCounts

inductive Severity where
  | info
  | warning
  | critical
  deriving DecidableEq

namespace Severity

def all : List Severity := [.info, .warning, .critical]

def name : Severity → String
  | .info => "info"
  | .warning => "warning"
  | .critical => "critical"

def ofJson? (v : Json) : Option Severity :=
  v.word?.bind fun word => all.find? (·.name == word)

end Severity

def looseText? (v : Json) : Option String := some v.textOrEmpty

def textDict? : Json → Option (Dict String String)
  | .obj fields =>
    (fields.mapM fun (field : String × Json) => field.2.str?.map fun s => (field.1, s)).map
      Dict.ofList
  | _ => none

structure Diagnostic where
  code : String
  title : String
  count : Nat
  severity : Severity
  linkQuery : Dict String String
  target : Section

namespace Diagnostic

def ofJson? (v : Json) : Option Diagnostic := do
  match ← v.slots? ["code", "title", "count", "severity", "linkQuery", "target"] 6 with
  | [code, title, count, severity, linkQuery, target] =>
    return {
      code := ← Json.required? looseText? code
      title := ← Json.required? Json.str? title
      count := ← Json.orDefault? 0 Json.nat64? count
      severity := ← Json.required? Severity.ofJson? severity
      linkQuery := ← Json.orDefault? Dict.empty textDict? linkQuery
      target := ← Json.required? Section.ofJson? target }
  | _ => none

def toJson (d : Diagnostic) : Json :=
  Json.ofFields [
    ("code", .str d.code),
    ("title", .str d.title),
    ("count", .ofNat d.count),
    ("severity", .str d.severity.name),
    ("linkQuery", .obj (d.linkQuery.entries.map fun (key, s) => (key, .str s))),
    ("target", d.target.toJson)]

end Diagnostic

structure Activity where
  id : String
  title : String
  actor : String
  ts : String
  target : Section
  targetId : String
  deriving DecidableEq

namespace Activity

def ofJson? (v : Json) : Option Activity := do
  match ← v.slots? ["id", "title", "actor", "ts", "target", "targetId"] 6 with
  | [id, title, actor, ts, target, targetId] =>
    return {
      id := ← Json.required? looseText? id
      title := ← Json.required? Json.str? title
      actor := ← Json.orDefault? "" Json.str? actor
      ts := ← Json.required? Json.str? ts
      target := ← Json.required? Section.ofJson? target
      targetId := ← Json.required? looseText? targetId }
  | _ => none

def toJson (a : Activity) : Json :=
  Json.ofFields [
    ("id", .str a.id),
    ("title", .str a.title),
    ("actor", .str a.actor),
    ("ts", .str a.ts),
    ("target", a.target.toJson),
    ("targetId", .str a.targetId)]

end Activity

structure Listing (α : Type) where
  items : List α
  incomplete : Option Bool := none

namespace Listing

variable {α : Type}

def toJson (item : α → Json) (l : Listing α) : Json :=
  Json.ofFields (("items", .arr (l.items.map item)) :: incompleteField l.incomplete)

/-- Reads a bare list, or an object whose items may be missing or null. -/
def ofJson (path : String) (item? : Json → Option α) (v : Json) : Except Failure (Listing α) :=
  let items (list : Json) : Except Failure (List α) :=
    match Json.listOf? item? list with
    | some items => .ok items
    | none => .error (.decode (path ++ ": unreadable items"))
  match v with
  | .arr list => return { items := ← items (.arr list) }
  | .obj fields => do
    let items ← match Assoc.get? "items" fields with
      | none => .ok []
      | some .null => .ok []
      | some list => items list
    return { items := items, incomplete := (Assoc.get? "partial" fields).bind Json.bool? }
  | other => .error (.decode (path ++ ": unexpected list payload " ++ other.compact))

end Listing

def coveragePath : String := "/nsi/dashboard/coverage"
def diagnosticsPath : String := "/nsi/dashboard/diagnostics"
def activityPath : String := "/nsi/dashboard/activity"
def relationCountsPath : String := "/nsi/dashboard/relations-counts"

def defaultActivityLimit : Nat := 7

def decode {α : Type} (path : String) (read? : Json → Option α) (v : Json) : Except Failure α :=
  match read? v with
  | some value => .ok value
  | none => .error (.decode (path ++ ": unreadable value"))

def fetchCoverage : Inquiry Coverage := do
  decode coveragePath Coverage.ofJson? (← .get coveragePath)

def fetchDiagnostics : Inquiry (Listing Diagnostic) := do
  Listing.ofJson diagnosticsPath Diagnostic.ofJson? (← .get diagnosticsPath)

def fetchActivity (limit : Nat) : Inquiry (Listing Activity) := do
  let query := [("limit", String.ofList (natDigits limit))]
  Listing.ofJson activityPath Activity.ofJson? (← .call (.get activityPath query))

def fetchRelationCounts : Inquiry RelationCounts := do
  decode relationCountsPath RelationCounts.ofJson? (← .get relationCountsPath)

structure Page where
  coverage : Coverage
  diagnostics : Listing Diagnostic
  activity : Listing Activity
  relations : RelationCounts

def fetchPage (limit : Nat) : Inquiry Page := do
  let coverage ← fetchCoverage
  let diagnostics ← fetchDiagnostics
  let activity ← fetchActivity limit
  let relations ← fetchRelationCounts
  return ⟨coverage, diagnostics, activity, relations⟩

def Page.toJson (p : Page) : Json :=
  Json.ofFields [
    ("coverage", p.coverage.toJson),
    ("diagnostics", p.diagnostics.toJson Diagnostic.toJson),
    ("activity", p.activity.toJson Activity.toJson),
    ("relations", p.relations.toJson)]

end RefData.Dashboard
