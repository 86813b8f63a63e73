import RefData.Failure
import RefData.Json.Reader
import RefData.Record.Scalar
set_option autoImplicit false

namespace RefData.Body

/-- The value of a response text: null for a blank one, the text itself when it is not JSON. -/
def parse (text : String) : Json :=
  if (Text.trim text).isEmpty then .null else (Json.parse? text).getD (.str text)

def messageKeys : List String := ["message", "error", "detail"]

def errorMessage (text : String) (reason : Option String) : String :=
  let spoken := ((Json.parse? text).bind Json.fields?).bind fun fields =>
    messageKeys.findSome? fun key => (Assoc.get? key fields).bind Json.text?
  match spoken with
  | some message => message
  | none =>
    let trimmed := Text.trim text
    if trimmed.isEmpty then reason.getD "request failed" else trimmed

end RefData.Body
