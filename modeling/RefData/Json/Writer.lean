import RefData.Json.Value
set_option autoImplicit false

namespace RefData.Json

def hexDigit (n : Nat) : Char :=
  if n < 10 then Char.ofNat (n + '0'.toNat) else Char.ofNat (n - 10 + 'a'.toNat)

def escapeChar (c : Char) : List Char :=
  if c = '"' then ['\\', '"']
  else if c = '\\' then ['\\', '\\']
  else if c = '\n' then ['\\', 'n']
  else if c = '\r' then ['\\', 'r']
  else if c = '\t' then ['\\', 't']
  else if c = '\x08' then ['\\', 'b']
  else if c = '\x0c' then ['\\', 'f']
  else if c.toNat < 32 then ['\\', 'u', '0', '0', hexDigit (c.toNat / 16), hexDigit (c.toNat % 16)]
  else [c]

def quoted (s : String) : List Char :=
  '"' :: (s.toList.flatMap escapeChar ++ ['"'])

-- Each function writes its value in front of the text that follows it.
mutual

def writeTo : Json → List Char → List Char
  | .null, rest => 'n' :: 'u' :: 'l' :: 'l' :: rest
  | .bool true, rest => 't' :: 'r' :: 'u' :: 'e' :: rest
  | .bool false, rest => 'f' :: 'a' :: 'l' :: 's' :: 'e' :: rest
  | .int n, rest => intText n ++ rest
  | .float x, rest => x.text ++ rest
  | .str s, rest => quoted s ++ rest
  | .arr items, rest => '[' :: writeItems items (']' :: rest)
  | .obj fields, rest => '{' :: writeFields fields ('}' :: rest)

def writeItems : List Json → List Char → List Char
  | [], rest => rest
  | [v], rest => writeTo v rest
  | v :: vs, rest => writeTo v (',' :: writeItems vs rest)

def writeFields : List (String × Json) → List Char → List Char
  | [], rest => rest
  | [(k, v)], rest => quoted k ++ ':' :: writeTo v rest
  | (k, v) :: fs, rest => quoted k ++ ':' :: writeTo v (',' :: writeFields fs rest)

end

def compact (v : Json) : String := String.ofList (writeTo v [])

end RefData.Json
