set_option autoImplicit false

namespace RefData

inductive Failure where
  | transport (detail : String)
  | http (status : Nat) (text : String)
  | rpc (method : String) (text : String)
  | auth (text : String)
  | config (text : String)
  | decode (text : String)
  | notFound (text : String)
  | invalidInput (text : String)
  | io (detail : String)
  | json (detail : String)
  deriving DecidableEq, Inhabited

namespace Failure

def message : Failure → String
  | .transport detail => "Transport error: " ++ detail
  | .http status text => "HTTP " ++ String.ofList (Nat.toDigits 10 status) ++ ": " ++ text
  | .rpc _ text => text
  | .auth text => "Authentication failed: " ++ text
  | .config text => "Configuration error: " ++ text
  | .decode text => "Unexpected response: " ++ text
  | .notFound text => "Not found: " ++ text
  | .invalidInput text => "Invalid input: " ++ text
  | .io detail => "IO error: " ++ detail
  | .json detail => "JSON error: " ++ detail

def ofMethod (method : String) (text : Option String) : Failure :=
  .rpc method (text.getD ("RPC " ++ method ++ " failed"))

end Failure

end RefData
