import RefData.Http.Message
set_option autoImplicit false

namespace RefData.Http

structure Cookie where
  name : String
  value : String
  domain : String
  hostOnly : Bool
  path : String
  secure : Bool
  deriving DecidableEq

structure CookieAttribute where
  name : String
  value : String

namespace Cookie

def partsOf (text : String) : List (List Char) :=
  (Text.pieces (· == ';') text.toList).map Text.trimChars

def attributeOf (part : List Char) : CookieAttribute :=
  match Text.splitFirst? ['='] part with
  | some (name, value) =>
    ⟨Text.lowerAscii (String.ofList (Text.trimChars name)), String.ofList (Text.trimChars value)⟩
  | none => ⟨Text.lowerAscii (String.ofList part), ""⟩

def belongsTo (host domain : String) : Bool :=
  host == domain || host.endsWith ("." ++ domain)

def directoryOf (path : String) : String :=
  match Text.splitLast? '/' path.toList with
  | some (front, _) => if front.isEmpty then "/" else String.ofList front
  | none => "/"

def covers (cookiePath path : String) : Bool :=
  path == cookiePath || cookiePath.endsWith "/" && path.startsWith cookiePath
    || path.startsWith (cookiePath ++ "/")

def hostText (url : Url) : String := String.ofList ((url.host.map Url.Host.text).getD [])

def pathText (url : Url) : String :=
  let text := String.ofList url.pathText
  if text.isEmpty then "/" else text

inductive Change where
  | keep (cookie : Cookie)
  | drop (cookie : Cookie)

/-- Reads the text of a cookie that an address has sent. A domain that the host is no part of is
refused; no time left to live is a wish to forget the cookie. -/
def change? (url : Url) (text : String) : Option Change := do
  match partsOf text with
  | [] => none
  | first :: rest =>
    let (name, value) ← Text.splitFirst? ['='] first
    let name := Text.trimChars name
    if name.isEmpty then none
    else
      let attributes := rest.map attributeOf
      let last? (key : String) := (attributes.reverse.find? (·.name == key)).map (·.value)
      let host := hostText url
      let domain := ((last? "domain").map fun d =>
        Text.lowerAscii (if d.startsWith "." then String.ofList (d.toList.drop 1) else d)).filter
          fun d => !d.isEmpty
      let path := ((last? "path").filter fun p => p.startsWith "/").getD (directoryOf (pathText url))
      let cookie : Cookie := {
        name := String.ofList name
        value := String.ofList (Text.trimChars value)
        domain := domain.getD host
        hostOnly := domain.isNone
        path := path
        secure := (last? "secure").isSome }
      if !belongsTo host cookie.domain then none
      else match (last? "max-age").bind fun age => readInt? age.toList with
        | some age => if age ≤ 0 then some (.drop cookie) else some (.keep cookie)
        | none => some (.keep cookie)

def sameSlot (a b : Cookie) : Bool := a.name == b.name && a.domain == b.domain && a.path == b.path

def isSentTo (c : Cookie) (url : Url) : Bool :=
  let host := hostText url
  (if c.hostOnly then host == c.domain else belongsTo host c.domain)
    && covers c.path (pathText url) && (!c.secure || url.scheme == "https")

end Cookie

structure CookieJar where
  cookies : List Cookie := []

namespace CookieJar

def apply (jar : CookieJar) : Cookie.Change → CookieJar
  | .keep cookie => ⟨jar.cookies.filter (fun c => !c.sameSlot cookie) ++ [cookie]⟩
  | .drop cookie => ⟨jar.cookies.filter fun c => !c.sameSlot cookie⟩

def store (jar : CookieJar) (url : Url) (headers : Headers) : CookieJar :=
  ((headers.values "set-cookie").filterMap (Cookie.change? url)).foldl apply jar

def field? (jar : CookieJar) (url : Url) : Option String :=
  let pairs := (jar.cookies.filter (·.isSentTo url)).map fun c => c.name ++ "=" ++ c.value
  let sorted := pairs.mergeSort fun a b => compare a b != .gt
  if sorted.isEmpty then none
  else some (String.ofList (Text.joinWith [';', ' '] (sorted.map String.toList)))

end CookieJar

end RefData.Http
