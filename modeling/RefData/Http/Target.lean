import RefData.Text.Blank
set_option autoImplicit false

namespace RefData.Http

structure Target where
  path : String
  query : Option String := none
  deriving DecidableEq

namespace Target

def isPathChar (c : Char) : Bool :=
  0x20 < c.toNat && c ∉ ['#', '<', '>', '?', '\x60']

def isQueryChar (c : Char) : Bool := 0x20 < c.toNat && c ∉ ['"', '#', '<', '>']

def isEnd (c : Char) : Bool := c == '/' || c == '?' || c == '#'

def ofPath? (cs : List Char) : Option Target :=
  let path := cs.takeWhile fun c => c != '?' && c != '#'
  let after := cs.drop path.length
  let query := match after with
    | '?' :: rest => some (rest.takeWhile (· != '#'))
    | _ => none
  if path.all isPathChar && query.all (·.all isQueryChar) then
    some {
      path := if path.isEmpty then "/" else String.ofList path
      query := query.map String.ofList }
  else none

def isSchemeChar (c : Char) : Bool := c.isAlphanum || c == '+' || c == '-' || c == '.'

def maxScheme : Nat := 64

def splitScheme? (cs : List Char) : Option (List Char × List Char) :=
  match cs.dropWhile isSchemeChar with
  | ':' :: '/' :: '/' :: rest => some (cs.takeWhile isSchemeChar, rest)
  | _ => none

structure Authority where
  colons : Nat := 0
  opened : Bool := false
  closed : Bool := false
  percent : Bool := false

namespace Authority

def isPlain (c : Char) : Bool := c.isAlphanum || "!$&'()*+,-.;=_~".toList.contains c

def maxColons : Nat := 8

/-- Takes one character. What was before an at sign, or in brackets, is not held against the rest. -/
def step? (a : Authority) (c : Char) : Option Authority :=
  match c with
  | ':' => if a.colons < maxColons then some { a with colons := a.colons + 1 } else none
  | '[' => if a.percent || a.opened then none else some { a with opened := true }
  | ']' =>
    if !a.opened || a.closed then none
    else some { a with closed := true, colons := 0, percent := false }
  | '@' => some { a with colons := 0, percent := false }
  | '%' => some { a with percent := true }
  | c => if isPlain c then some a else none

def isValid (cs : List Char) : Bool :=
  match cs.foldlM step? {} with
  | some a => a.opened == a.closed && a.colons ≤ 1 && !a.percent && cs.getLast? != some '@'
  | none => false

end Authority

def maxBytes : Nat := 65534

/-- Reads a target: a path, an address of which only what follows the host counts, an authority
alone, or a star. -/
def parse? (text : String) : Option Target :=
  let cs := text.toList
  if cs.isEmpty || maxBytes < text.utf8ByteSize then none
  else if cs = ['*'] then some { path := "*" }
  else if cs.head? = some '/' then ofPath? cs
  else
    match splitScheme? cs with
    | some (scheme, rest) =>
      let authority := rest.takeWhile fun c => !isEnd c
      if scheme.length ≤ maxScheme && !authority.isEmpty && Authority.isValid authority then
        ofPath? (rest.drop authority.length)
      else none
    | none => if Authority.isValid cs then some { path := "" } else none

end Target

end RefData.Http
