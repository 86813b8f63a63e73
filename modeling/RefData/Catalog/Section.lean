import RefData.Failure
import RefData.Json.Decode
import RefData.Text.Blank
import RefData.Text.Case
set_option autoImplicit false

namespace RefData

inductive Section where
  | sources
  | types
  | components
  | params
  | defects
  | works
  deriving DecidableEq, Inhabited

namespace Section

def all : List Section := [.sources, .types, .components, .params, .defects, .works]

def name : Section → String
  | .sources => "sources"
  | .types => "types"
  | .components => "components"
  | .params => "params"
  | .defects => "defects"
  | .works => "works"

def ofName? (word : String) : Option Section := all.find? (·.name == word)

def parse (text : String) : Except Failure Section :=
  let word := Text.lowerText (Text.trim text)
  match ofName? word with
  | some s => .ok s
  | none => .error (.invalidInput ("unknown section: " ++ word))

def toJson (s : Section) : Json := .str s.name

def ofJson? (v : Json) : Option Section := v.word?.bind ofName?

end Section

end RefData
