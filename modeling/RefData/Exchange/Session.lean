import RefData.Exchange.Fetch
import RefData.Json.Reader
import RefData.Json.Writer
import RefData.Text.Blank
set_option autoImplicit false

namespace RefData

structure Credentials where
  username : String
  password : String
  deriving DecidableEq

namespace Credentials

def form (c : Credentials) : List (String × String) :=
  [("username", c.username), ("password", c.password)]

end Credentials

inductive Login where
  | accepted
  | session (user tokens : Json)

namespace Login

def session? (text : String) : Option (Json × Json) := do
  let body ← Json.parse? text
  let user ← body.field? "user"
  let tokens ← body.field? "tokens"
  if user.isNull || tokens.isNull then none else some (user, tokens)

/-- Judges the text of a login response. What is neither `ok` nor a session is the reason of the
refusal. -/
def ofResponse (text : String) : Except Failure Login :=
  let trimmed := Text.trim text
  if trimmed = "ok" then .ok .accepted
  else match session? trimmed with
    | some (user, tokens) => .ok (.session user tokens)
    | none => .error (.auth (if trimmed.isEmpty then "unknown login error" else trimmed))

def toJson : Login → Json
  | .accepted => Json.ofFields [("kind", .str "accepted")]
  | .session user tokens =>
    Json.ofFields [("kind", .str "session"), ("user", user), ("tokens", tokens)]

def replyText : Json → String
  | .str text => text
  | other => other.compact

def submit (c : Credentials) : Inquiry Login := do
  let reply ← Inquiry.call (.login c.form)
  ExceptT.mk (.done (ofResponse (replyText reply)))

end Login

def currentUser : Inquiry Json := do
  let reply ← Inquiry.rpc "data/getCurUserInfo" []
  return (reply.field? "result").getD reply

structure Permissions where
  targets : Dict String Unit

namespace Permissions

def targetsOf (text : String) : List String :=
  ((Text.commaPieces text).map Text.trim).filter fun target => !target.isEmpty

def parse (text : Option String) : Permissions :=
  ⟨Dict.ofList ((targetsOf (text.getD "")).map fun target => (target, ()))⟩

def ofUser (user : Json) : Permissions := parse ((user.field? "target").bind Json.str?)

def can (p : Permissions) (target : String) : Bool := p.targets.contains target

def canAny (p : Permissions) (targets : List String) : Bool := targets.any p.can

def isEmpty (p : Permissions) : Bool := p.targets.size == 0

def toList (p : Permissions) : List String := p.targets.keys

end Permissions

end RefData
