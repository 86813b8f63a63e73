import RefData.Proxy.Cookie
set_option autoImplicit false

namespace RefData.Proxy

open Http

def hopByHop : List String := [
  "connection",
  "keep-alive",
  "proxy-authenticate",
  "proxy-authorization",
  "proxy-connection",
  "te",
  "trailer",
  "transfer-encoding",
  "upgrade"]

def connectionTokens (headers : Headers) : List String :=
  ((headers.values "connection").filter Headers.isReadable).flatMap fun value =>
    (Text.commaPieces value).map fun token => Text.lowerAscii (Text.trim token)

def isHopByHop (headers : Headers) (name : String) : Bool :=
  hopByHop.contains name || (connectionTokens headers).contains name

def putReadable (headers : Headers) (name value : String) : Headers :=
  if Headers.isReadable value then headers.put name value else headers

/-- The fields that go to the backend. Origin and referer name the backend itself. -/
def backendHeaders (incoming : Headers) (origin : Option String) : Headers :=
  let passed := incoming.filter fun (name, _) =>
    name != "host" && name != "content-length" && !isHopByHop incoming name
  match origin with
  | some o => putReadable (putReadable passed "origin" o) "referer" (o ++ "/")
  | none => passed

def servingOrigin? (incoming : Headers) : Option String :=
  let host := servingHost incoming
  if host.isEmpty then none
  else
    let proto := ((incoming.first? "x-forwarded-proto").bind Headers.readable?).map fun value =>
      Text.trimChars value.toList
    let scheme := (proto.filter fun p => !p.isEmpty).getD "http".toList
    some (String.ofList (scheme ++ "://".toList ++ host))

def handOn (host : String) (field : String × String) : String × String :=
  if field.1 = "set-cookie" then
    match ((Headers.readable? field.2).map fun cookie => Cookie.readdress cookie host).filter
        Headers.isReadable with
    | some cookie => (field.1, cookie)
    | none => field
  else field

def browserHeaders (reply incoming : Headers) : Headers :=
  let passed := reply.filter fun (name, _) =>
    name != "content-length" && !isHopByHop reply name
  let handed : Headers := passed.map (handOn (cookieHost incoming))
  match (servingOrigin? incoming).filter Headers.isReadable with
  | some origin =>
    (handed.put "access-control-allow-origin" origin).put "access-control-allow-credentials" "true"
  | none => handed

end RefData.Proxy
