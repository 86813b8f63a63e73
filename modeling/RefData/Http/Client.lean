import RefData.Exchange.Body
import RefData.Exchange.Envelope
import RefData.Exchange.Fetch
import RefData.Http.CookieJar
import RefData.Json.Writer
import RefData.Settings
set_option autoImplicit false

namespace RefData.Http

structure Client where
  settings : Settings
  jar : CookieJar := {}

namespace Client

def userAgent : String := "nsi-common/0.1.0"

def prepare? (c : Client) (r : Request) : Option Delivery :=
  r.delivery?.map fun delivery =>
    let headers := delivery.headers.putDefault "user-agent" userAgent
    let headers := match c.jar.field? delivery.url with
      | some cookies => headers.putDefault "cookie" cookies
      | none => headers
    { delivery with headers := headers }

def receive (c : Client) (delivery : Delivery) (response : Option Response) :
    Except Failure Response × Client :=
  match response with
  | none => (.error (.transport ("no response from " ++ delivery.url.text)), c)
  | some r => (.ok r, { c with jar := c.jar.store delivery.url r.headers })

def unsendable (r : Request) : Failure := .transport ("cannot send to " ++ r.url)

def send (c : Client) (transport : Transport) (r : Request) : Except Failure Response × Client :=
  match c.prepare? r with
  | none => (.error (unsendable r), c)
  | some delivery => c.receive delivery (transport delivery)

def valueOf (response : Response) : Except Failure Json :=
  if response.isSuccess then .ok (Body.parse response.body)
  else .error (.http response.status (Body.errorMessage response.body (reason? response.status)))

def loginTextOf (response : Response) : Except Failure Json :=
  if response.isSuccess then .ok (.str response.body)
  else .error (.auth (Body.errorMessage response.body (reason? response.status)))

def acceptJson : Headers := [("accept", "application/json")]

def jsonRequest (method url : String) (body : Json) : Request :=
  { method := method
    url := url
    headers := acceptJson ++ [("content-type", "application/json")]
    body := some body.compact }

def withQuery (url : String) (fields : List (String × String)) : String :=
  match Url.parse url with
  | .error _ => url
  | .ok parsed =>
    let added := String.ofList (Url.formPairs fields)
    let query := match parsed.query with
      | some old => if old.isEmpty || added.isEmpty then old ++ added else old ++ "&" ++ added
      | none => added
    { parsed with query := if query.isEmpty then none else some query }.text

def requestOf (s : Settings) : Call → Except Failure Request
  | .rpc method params => .ok (jsonRequest "POST" s.rpcUrl (Envelope.request method params))
  | .metaRpc method params => .ok (jsonRequest "POST" s.metaRpcUrl (Envelope.request method params))
  | .get path query =>
    .ok { method := "GET", url := withQuery (s.endpoint path) query, headers := acceptJson }
  | .post path body => .ok (jsonRequest "POST" (s.endpoint path) body)
  | .put path body => .ok (jsonRequest "PUT" (s.endpoint path) body)
  | .delete path => .ok { method := "DELETE", url := s.endpoint path, headers := acceptJson }
  | .login fields => do
    return {
      method := "POST"
      url := ← s.login
      headers := [("content-type", "application/x-www-form-urlencoded")]
      body := some (String.ofList (Url.formPairs fields)) }

def readReply (call : Call) (response : Response) : Reply :=
  match call with
  | .rpc method _ => do Envelope.decode method (← valueOf response)
  | .metaRpc method _ => do Envelope.decode method (← valueOf response)
  | .login _ => loginTextOf response
  | _ => valueOf response

def answer (transport : Transport) (call : Call) (c : Client) : Reply × Client :=
  match requestOf c.settings call with
  | .error reason => (.error reason, c)
  | .ok request =>
    match c.send transport request with
    | (.ok response, c) => (readReply call response, c)
    | (.error reason, c) => (.error reason, c)

end Client

end RefData.Http
