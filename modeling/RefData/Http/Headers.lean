import RefData.Text.Blank
set_option autoImplicit false

namespace RefData.Http

/-- Header fields in order. Names are in lower case, and a name may stand several times. -/
abbrev Headers := List (String × String)

namespace Headers

def ofWritten (fields : List (String × String)) : Headers :=
  fields.map fun (name, value) => (Text.lowerAscii name, value)

def values (h : Headers) (name : String) : List String :=
  (h.filter (·.1 == name)).map Prod.snd

def first? (h : Headers) (name : String) : Option String := (h.values name).head?

def has (h : Headers) (name : String) : Bool := h.any (·.1 == name)

def without (h : Headers) (name : String) : Headers := h.filter (·.1 != name)

def put (h : Headers) (name value : String) : Headers := h.without name ++ [(name, value)]

def putDefault (h : Headers) (name value : String) : Headers :=
  if h.has name then h else h ++ [(name, value)]

def isReadable (value : String) : Bool :=
  value.toList.all fun c => c == '\t' || (0x20 ≤ c.toNat && c.toNat ≤ 0x7E)

def readable? (value : String) : Option String := if isReadable value then some value else none

def sorted (h : Headers) : Headers := h.mergeSort fun a b => compare a.1 b.1 != .gt

end Headers

end RefData.Http
