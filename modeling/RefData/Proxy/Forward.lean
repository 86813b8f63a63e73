import RefData.Http.Message
import RefData.Http.Target
import RefData.Json.Writer
import RefData.Proxy.Filter
import RefData.Settings
set_option autoImplicit false

namespace RefData.Proxy

open Http

structure Incoming where
  method : String
  target : Target
  headers : Headers := []
  body : String := ""

/-- Drops a path's first step, if it is the given one and a slash or nothing follows. -/
def afterStep? (step path : List Char) : Option (List Char) :=
  if step.isPrefixOf path then
    let rest := path.drop step.length
    if rest.isEmpty || rest.head? == some '/' then some rest else none
  else none

def backendPath (path : String) : String :=
  let cs := path.toList
  String.ofList (match afterStep? "/api".toList cs with
    | some rest => Settings.dropSlashes rest
    | none =>
      match afterStep? "/auth".toList cs with
      | some rest => "auth/".toList ++ Settings.dropSlashes rest
      | none => Settings.dropSlashes cs)

def backendUrl (base path : String) (query : Option String) : String :=
  let target := Settings.joinUrl base (backendPath path)
  match query.filter fun q => !q.isEmpty with
  | some q => target ++ "?" ++ q
  | none => target

inductive Route where
  | forward
  | health
  | nowhere
  deriving DecidableEq

def routeOf (path : String) : Route :=
  let below (step : String) : Bool :=
    (afterStep? step.toList path.toList).any fun rest => 1 < rest.length
  if path = "/api" || below "/api" || below "/auth" then .forward
  else if path = "/health" then .health
  else .nowhere

inductive Fault where
  | unconfigured
  | badGateway (detail : String)
  | badRequest (text : String)
  deriving DecidableEq

namespace Fault

def status : Fault → Nat
  | .unconfigured => 500
  | .badGateway _ => 502
  | .badRequest _ => 400

def content : Fault → Json
  | .unconfigured => Json.ofFields [("error", .str "BACKEND_BASE is not set")]
  | .badGateway detail => Json.ofFields [("error", .str "Bad Gateway"), ("detail", .str detail)]
  | .badRequest text => Json.ofFields [("error", .str text)]

def jsonHeaders : Headers := [("content-type", "application/json")]

def response (f : Fault) : Response :=
  { status := f.status, headers := jsonHeaders, body := f.content.compact }

end Fault

def maxBodyBytes : Nat := 10 * 1024 * 1024

def backendBase (configured : Option String) : Except Failure (Option String) :=
  match Settings.nonblank? configured with
  | some base => (Settings.normalizeBase base).map some
  | none => .ok none

def originOf? (base : String) : Option String := (Url.parse base).toOption.map Url.origin

def hasNoBody (method : String) : Bool := method == "GET" || method == "HEAD"

def backendRequest (base : String) (incoming : Incoming) : Except Fault Request :=
  let body := if hasNoBody incoming.method then none else some incoming.body
  if (body.map String.utf8ByteSize).getD 0 ≤ maxBodyBytes then
    .ok {
      method := incoming.method
      url := backendUrl base incoming.target.path incoming.target.query
      headers := backendHeaders incoming.headers (originOf? base)
      body := body }
  else .error (.badRequest "unreadable request body: length limit exceeded")

def browserResponse (incoming : Incoming) (response : Response) : Response :=
  { response with headers := browserHeaders response.headers incoming.headers }

def noDetail : String := "*"

def forward (base : Option String) (transport : Transport) (incoming : Incoming) :
    Except Fault Response := do
  match base with
  | none => throw .unconfigured
  | some base =>
    let request ← backendRequest base incoming
    match request.delivery?.bind transport with
    | some response => return browserResponse incoming response
    | none => throw (.badGateway noDetail)

def version : String := "0.1.0"

def healthText (base : Option String) : String :=
  let fields : List (String × Json) := [
    ("status", .str "ok"),
    ("module", .str "nsi-proxy"),
    ("version", .str version),
    ("backendConfigured", .bool base.isSome)]
  -- In this order, which is not that of the keys.
  (Json.obj fields).compact

def health (base : Option String) (method : String) : Response :=
  if method = "GET" then
    { status := 200, headers := Fault.jsonHeaders, body := healthText base }
  else if method = "HEAD" then { status := 200, headers := Fault.jsonHeaders }
  else { status := 405, headers := [("allow", "GET,HEAD")] }

def handle (base : Option String) (transport : Transport) (incoming : Incoming) : Response :=
  match routeOf incoming.target.path with
  | .forward =>
    match forward base transport incoming with
    | .ok response => response
    | .error fault => fault.response
  | .health => health base incoming.method
  | .nowhere => { status := 404 }

end RefData.Proxy
