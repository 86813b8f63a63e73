import RefData.Json.Reader
import RefData.Text.Utf8
set_option autoImplicit false

namespace RefData.Url

def hexUpper (n : Nat) : Char :=
  if n < 10 then Char.ofNat (n + '0'.toNat) else Char.ofNat (n - 10 + 'A'.toNat)

def encodeByte (b : Nat) : List Char := ['%', hexUpper (b / 16), hexUpper (b % 16)]

def percentEncode (inSet : Char → Bool) (cs : List Char) : List Char :=
  cs.flatMap fun c => if inSet c then (Text.utf8Bytes c).flatMap encodeByte else [c]

def controlSet (c : Char) : Bool := c.toNat < 0x20 || 0x7F ≤ c.toNat

def fragmentSet (c : Char) : Bool :=
  controlSet c || c == ' ' || c == '"' || c == '<' || c == '>' || c == '\x60'

def querySet (c : Char) : Bool :=
  controlSet c || c == ' ' || c == '"' || c == '#' || c == '<' || c == '>'

def specialQuerySet (c : Char) : Bool := querySet c || c == '\x27'

def pathSet (c : Char) : Bool :=
  fragmentSet c || c == '#' || c == '?' || c == '{' || c == '}'

def userinfoSet (c : Char) : Bool :=
  pathSet c || c == '/' || c == ':' || c == ';' || c == '=' || c == '@' || c == '[' || c == '\\'
    || c == ']' || c == '^' || c == '|'

def formEncode (cs : List Char) : List Char :=
  cs.flatMap fun c =>
    if c == ' ' then ['+']
    else if c.isAlphanum || c == '*' || c == '-' || c == '.' || c == '_' then [c]
    else (Text.utf8Bytes c).flatMap encodeByte

def formPairs : List (String × String) → List Char
  | [] => []
  | [(k, v)] => pair k v
  | (k, v) :: rest => pair k v ++ '&' :: formPairs rest
where
  pair (k v : String) : List Char := formEncode k.toList ++ '=' :: formEncode v.toList

def percentDecode : List Char → List Nat
  | '%' :: a :: b :: rest =>
    match Json.hexValue? a, Json.hexValue? b with
    | some x, some y => (x * 16 + y) :: percentDecode rest
    | _, _ => 0x25 :: percentDecode (a :: b :: rest)
  | c :: rest => Text.utf8Bytes c ++ percentDecode rest
  | [] => []

end RefData.Url
