import RefData.Failure
import RefData.Record.Scalar
set_option autoImplicit false

namespace RefData.Envelope

def request (method : String) (params : List Json) : Json :=
  Json.ofFields [("method", .str method), ("params", .arr params)]

def errorText? : Json → Option String
  | .obj inner => (Assoc.get? "message" inner).bind Json.text?
  | other => other.text?

def error? (body : Json) : Option Json := (body.field? "error").filter Json.truthy

/-- Opens the reply to a method call. An object with an error fails, one with a result stands for
that result, and every other value stands for itself. -/
def decode (method : String) (body : Json) : Except Failure Json :=
  match error? body with
  | some error => .error (.ofMethod method (errorText? error))
  | none => .ok ((body.field? "result").getD body)

end RefData.Envelope
