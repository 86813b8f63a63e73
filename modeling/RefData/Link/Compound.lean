import RefData.Dict
import RefData.Text.Fold
set_option autoImplicit false

namespace RefData

/-- A relation that is given by names only: `parameter, unit<=>component`. -/
structure CompoundRelation where
  parameter : String
  unit : Option String
  component : String
  deriving DecidableEq

namespace CompoundRelation

def separator : List Char := ['<', '=', '>']

def splitUnit (cs : List Char) : List Char × List Char :=
  match Text.splitLast? ',' cs with
  | some (name, unit) => (Text.trimChars name, Text.trimChars unit)
  | none => (Text.trimChars cs, [])

def parse? (text : String) : Option CompoundRelation := do
  let (left, right) ← Text.splitFirst? separator text.toList
  let (parameter, unit) := splitUnit left
  let component := Text.trimChars right
  if parameter.isEmpty || component.isEmpty then none
  else
    some {
      parameter := String.ofList parameter
      unit := if unit.isEmpty then none else some (String.ofList unit)
      component := String.ofList component }

end CompoundRelation

structure CompoundIndex where
  byNameAndUnit : Dict String String
  byName : Dict String String

namespace CompoundIndex

def empty : CompoundIndex := ⟨Dict.empty, Dict.empty⟩

def isEmpty (index : CompoundIndex) : Bool := index.byName.size == 0

def nameAndUnit (name : String) (unit : Option String) : String :=
  Text.fold name ++ "|" ++ Text.fold (unit.getD "")

/-- Under name and unit a later relation replaces an earlier one, under the name alone it does not. -/
def insert (index : CompoundIndex) (r : CompoundRelation) : CompoundIndex :=
  let name := Text.fold r.parameter
  { byNameAndUnit := index.byNameAndUnit.insert (nameAndUnit r.parameter r.unit) r.component
    byName := if index.byName.contains name then index.byName
      else index.byName.insert name r.component }

def component? (index : CompoundIndex) (name : String) (unit : Option String) : Option String :=
  (index.byNameAndUnit.get? (nameAndUnit name unit)).or (index.byName.get? (Text.fold name))

def ofRelations (relations : List CompoundRelation) : CompoundIndex := relations.foldl insert empty

end CompoundIndex

end RefData
