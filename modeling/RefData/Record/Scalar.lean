import RefData.Json.Value
import RefData.Text.Fold
set_option autoImplicit false

namespace RefData.Json

-- Readings of loosely typed values. None of them fails: a value that cannot be read is none.

def maxExactInt : Int := 0x1fffffffffffff

def nonempty? (s : String) : Option String := if s.isEmpty then none else some s

def exactInt? (x : Binary64) : Option Int :=
  x.toInt?.filter fun n => n.natAbs ≤ maxExactInt

/-- The text of a scalar: a trimmed string that is not empty, or a number in decimal. A double
without a fraction is written like the integer it equals. -/
def text? : Json → Option String
  | .str s => nonempty? (Text.trim s)
  | .int n => some (String.ofList (intText n))
  | .float x =>
    match exactInt? x with
    | some n => some (String.ofList (intText n))
    | none => some (String.ofList x.text)
  | _ => none

def textOrEmpty (v : Json) : String := (text? v).getD ""

def pointForComma : List Char → List Char
  | [] => []
  | c :: rest => if c = ',' then '.' :: rest else c :: pointForComma rest

/-- The number of a scalar: a number, or a string that is one, with a comma allowed as the point. -/
def number? : Json → Option Binary64
  | .int n => Binary64.ofInt? n
  | .float x => some x
  | .str s => (readDecimal? (pointForComma (Text.trimChars s.toList))).bind (·.toBinary64?)
  | _ => none

def integer? (v : Json) : Option Int :=
  match int64? v with
  | some n => some n
  | none => ((number? v).bind (·.toInt?)).filter fun n => n.natAbs < 0x8000000000000000

def trueWords : List String := ["1", "true", "yes", "y", "checked"]

def falseWords : List String := ["0", "false", "no", "n"]

def flag? : Json → Option Bool
  | .bool b => some b
  | .int n => some (n != 0)
  | .float x => some !x.isZero
  | .str s =>
    let word := Text.lowerText (Text.trim s)
    if trueWords.contains word then some true
    else if falseWords.contains word then some false
    else none
  | _ => none

def flag (v : Json) : Bool := (flag? v).getD false

def code? (v : Json) : Option String :=
  (text? v).map fun s =>
    String.ofList ((s.toList.filter fun c => !Text.isBlank c).flatMap Text.upperChar)

def isBreak (c : Char) : Bool := c == '\r' || c == '\n'

/-- Every run of line breaks as one line feed. `inBreak` says that the last character was one. -/
def joinBreaks (inBreak : Bool) : List Char → List Char
  | [] => []
  | c :: rest =>
    if isBreak c then (if inBreak then joinBreaks true rest else '\n' :: joinBreaks true rest)
    else c :: joinBreaks false rest

def lines? (v : Json) : Option String :=
  (text? v).map fun s => String.ofList (joinBreaks false s.toList)

def truthy : Json → Bool
  | .null => false
  | .bool b => b
  | .int n => n != 0
  | .float x => !x.isZero
  | .str s => !s.isEmpty
  | .arr _ => true
  | .obj _ => true

end RefData.Json
