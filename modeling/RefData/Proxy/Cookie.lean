import RefData.Http.Headers
import RefData.Number.Notation
set_option autoImplicit false

namespace RefData.Proxy

def stripPort (host : List Char) : List Char :=
  match host with
  | '[' :: rest => rest.takeWhile (· != ']')
  | _ =>
    match Text.splitLast? ':' host with
    | some (name, number) => if number.all isDigit then name else host
    | none => host

/-- The host by which a browser reached this server. One that another server in front has noted
goes first; of several the first one counts. -/
def servingHost (incoming : Http.Headers) : List Char :=
  let noted := (incoming.first? "x-forwarded-host").or (incoming.first? "host")
  match noted.bind Http.Headers.readable? with
  | some value => Text.trimChars (value.toList.takeWhile (· != ','))
  | none => []

def cookieHost (incoming : Http.Headers) : String :=
  String.ofList (stripPort (servingHost incoming))

namespace Cookie

def parts (cookie : String) : List (List Char) :=
  ((Text.pieces (· == ';') cookie.toList).map Text.trimChars).filter fun part => !part.isEmpty

def attributeName (part : List Char) : List Char :=
  (Text.trimChars (part.takeWhile (· != '='))).map Char.toLower

def attributeValue (part : List Char) : List Char :=
  match Text.splitFirst? ['='] part with
  | some (_, value) => (Text.trimChars value).map Char.toLower
  | none => []

def isConfining (part : List Char) : Bool :=
  let name := attributeName part
  name == "domain".toList || name == "samesite".toList
    && (attributeValue part == "lax".toList || attributeValue part == "strict".toList)

def ensure (name text : String) (parts : List (List Char)) : List (List Char) :=
  if (parts.drop 1).any (attributeName · == name.toList) then parts else parts ++ [text.toList]

def readdressParts (parts : List (List Char)) (host : String) : List (List Char) :=
  let kept := parts.take 1 ++ (parts.drop 1).filter fun part => !isConfining part
  let placed := if host.isEmpty then kept else kept ++ ["Domain=".toList ++ host.toList]
  ensure "secure" "Secure" (ensure "samesite" "SameSite=None" (ensure "path" "Path=/" placed))

def readdress (cookie host : String) : String :=
  String.ofList (Text.joinWith [';', ' '] (readdressParts (parts cookie) host))

end Cookie

end RefData.Proxy
