import RefData.Catalog.Component.Repository
import RefData.Catalog.Search
import RefData.Console.Arguments
set_option autoImplicit false

namespace RefData.Console

inductive Fault where
  | usage (text : String)
  | failed (reason : Failure)
  | noSession (reason : Failure)

namespace Fault

def message : Fault → String
  | .usage text => text
  | .failed reason => reason.message
  | .noSession reason => reason.message

def summary : Fault → String
  | .noSession _ => "opening session"
  | fault => fault.message

end Fault

abbrev Work := ExceptT Fault Fetch

def Work.ofInquiry {α : Type} (inquiry : Inquiry α) (fault : Failure → Fault) : Work α :=
  ExceptT.mk do
    match ← inquiry.attempt with
    | .ok value => return .ok value
    | .error reason => return .error (fault reason)

def missingCredentials : String :=
  "login needs --username and --password (or NSI_USERNAME / NSI_PASSWORD)"

def snapshot : SnapshotKind → Inquiry Json
  | .parameters => do return (← Parameter.fetchSnapshot).toJson
  | .defects => do return (← Defect.fetchSnapshot).toJson
  | .components => do
    let (shown, _) ← Repository.snapshot.run ComponentStore.empty
    return shown.toJson
  | .objectTypes => do return (← ObjectType.fetchSnapshot).toJson
  | .sources => do return (← Source.fetchSnapshot).toJson

def perform : Command → Inquiry Json
  | .login => pure .null
  | .whoami => do
    let user ← currentUser
    return Json.ofFields [
      ("user", user), ("permissions", .ofStrs (Permissions.ofUser user).toList)]
  | .snapshot kind => snapshot kind
  | .dashboard limit => do return (← Dashboard.fetchPage limit).toJson
  | .search query => do
    let hits ← Search.search query
    return .arr (hits.map Hit.toJson)

/-- Carries out a command. With credentials a session is opened first; the login itself needs
them. -/
def execute (credentials : Option Credentials) (command : Command) : Work Json := do
  match command, credentials with
  | .login, none => throw (.usage missingCredentials)
  | .login, some c => return (← Work.ofInquiry (Login.submit c) .failed).toJson
  | command, none => Work.ofInquiry (perform command) .failed
  | command, some c =>
    let _ ← Work.ofInquiry (Login.submit c) .noSession
    Work.ofInquiry (perform command) .failed

end RefData.Console
