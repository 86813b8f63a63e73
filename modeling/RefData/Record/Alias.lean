import RefData.Record.Scalar
set_option autoImplicit false

namespace RefData

structure AliasTable where
  entity : String
  fields : List (String × List String)

namespace AliasTable

def keys (t : AliasTable) (field : String) : List String :=
  ((t.fields.find? (·.1 == field)).map Prod.snd).getD []

def declares (t : AliasTable) (field : String) : Bool := t.fields.any (·.1 == field)

end AliasTable

namespace Pick

def first? {α : Type} (read : Json → Option α) (fields : List (String × Json))
    (keys : List String) : Option α :=
  keys.findSome? fun key => (Assoc.get? key fields).bind read

def present? (v : Json) : Option Json := if v.isNull then none else some v

def text? (fields : List (String × Json)) (keys : List String) : Option String :=
  first? Json.text? fields keys

def number? (fields : List (String × Json)) (keys : List String) : Option Binary64 :=
  first? Json.number? fields keys

def integer? (fields : List (String × Json)) (keys : List String) : Option Int :=
  first? Json.integer? fields keys

def flag (fields : List (String × Json)) (keys : List String) : Bool :=
  (first? Json.flag? fields keys).getD false

def value? (fields : List (String × Json)) (keys : List String) : Option Json :=
  first? present? fields keys

end Pick

/-- A raw record seen through the wire names of its entity. What is no object has no fields. -/
structure Record where
  aliases : AliasTable
  raw : Json

namespace Record

def content (r : Record) : List (String × Json) := r.raw.fields?.getD []

def text? (r : Record) (field : String) : Option String :=
  Pick.text? r.content (r.aliases.keys field)

def number? (r : Record) (field : String) : Option Binary64 :=
  Pick.number? r.content (r.aliases.keys field)

def integer? (r : Record) (field : String) : Option Int :=
  Pick.integer? r.content (r.aliases.keys field)

def flag (r : Record) (field : String) : Bool := Pick.flag r.content (r.aliases.keys field)

def value? (r : Record) (field : String) : Option Json :=
  Pick.value? r.content (r.aliases.keys field)

def isObject (r : Record) : Bool := r.raw.fields?.isSome

end Record

end RefData
