import RefData.Failure
import RefData.Text.Quoted
import RefData.Toml.Reader
import RefData.Url.Address
set_option autoImplicit false

namespace RefData

structure Settings where
  baseUrl : String := "http://127.0.0.1:5730/api"
  rpcPath : String := ""
  metaRpcPath : String := "meta"
  loginPath : String := "/auth/login"
  timeoutSecs : Nat := 30
  deriving DecidableEq

namespace Settings

def dropSlashes (cs : List Char) : List Char := cs.dropWhile (· == '/')

def dropEndSlashes (cs : List Char) : List Char := Text.dropEndWhile (· == '/') cs

def normalizeBase (raw : String) : Except Failure String := do
  let trimmed := String.ofList (dropEndSlashes (Text.trimChars raw.toList))
  if trimmed.isEmpty then throw (.config "API base URL is empty")
  match Url.parse trimmed with
  | .error fault =>
    throw (.config ("API base URL " ++ Text.quote raw ++ " is not absolute: " ++ fault.message))
  | .ok url =>
    if url.isRootless then throw (.config ("API base URL " ++ Text.quote raw ++ " cannot be a base"))
    else return trimmed

def joinUrl (base path : String) : String :=
  let base := dropEndSlashes base.toList
  let path := dropSlashes (Text.trimChars path.toList)
  String.ofList (if path.isEmpty then base else base ++ '/' :: path)

def rootedLogin (path : String) : String :=
  if path.isEmpty then ({} : Settings).loginPath
  else if path.toList.head? = some '/' then path
  else "/" ++ path

def loginUrl (base path : String) : Except Failure String :=
  let trimmed := Text.trim path
  match (Url.parse trimmed).toOption.filter fun url => !url.isRootless with
  | some url => .ok url.text
  | none =>
    match Url.parse base with
    | .error fault =>
      .error (.config ("Invalid API base URL " ++ Text.quote base ++ ": " ++ fault.message))
    | .ok url =>
      match url.join (rootedLogin trimmed) with
      | .ok joined => .ok joined.text
      | .error fault =>
        .error (.config ("Invalid login path " ++ Text.quote path ++ ": " ++ fault.message))

def endpoint (s : Settings) (path : String) : String := joinUrl s.baseUrl path

def rpcUrl (s : Settings) : String := s.endpoint s.rpcPath

def metaRpcUrl (s : Settings) : String := s.endpoint s.metaRpcPath

def login (s : Settings) : Except Failure String := loginUrl s.baseUrl s.loginPath

structure Layer where
  apiBase : Option String := none
  rpcPath : Option String := none
  metaRpcPath : Option String := none
  loginPath : Option String := none
  timeoutSecs : Option Nat := none

namespace Layer

def text? : Option Toml → Option (Option String)
  | none => some none
  | some (.text s) => some (some s)
  | some _ => none

def count? : Option Toml → Option (Option Nat)
  | none => some none
  | some (.whole n) => if 0 ≤ n then some (some n.toNat) else none
  | some _ => none

def ofSlots? (apiBase rpcPath metaRpcPath loginPath timeoutSecs : Option Toml) : Option Layer := do
  return {
    apiBase := ← text? apiBase
    rpcPath := ← text? rpcPath
    metaRpcPath := ← text? metaRpcPath
    loginPath := ← text? loginPath
    timeoutSecs := ← count? timeoutSecs }

/-- The settings of a table by name, or of a list by position. A date or a time counts as a table
that holds none of them. -/
def ofToml? : Toml → Option Layer
  | .table _ fields =>
    let slot (key : String) := Assoc.get? key fields
    ofSlots? (slot "api_base") (slot "rpc_path") (slot "meta_rpc_path") (slot "login_path")
      (slot "timeout_secs")
  | .moment => some {}
  | .list (a :: b :: c :: d :: e :: _) => ofSlots? (some a) (some b) (some c) (some d) (some e)
  | _ => none

def ofFile? (text : String) : Option Layer := do
  match Assoc.get? "client" (← Toml.parse? text) with
  | none => some {}
  | some client => ofToml? client

end Layer

inductive File where
  | absent
  | explicit (path : String) (text : Option String)
  | user (text : String)

def File.layer : File → Except Failure Layer
  | .absent => .ok {}
  | .explicit path none => .error (.io ("cannot read " ++ path))
  | .explicit path (some text) =>
    match Layer.ofFile? text with
    | some layer => .ok layer
    | none => .error (.config ("Invalid TOML in " ++ path))
  | .user text => .ok ((Layer.ofFile? text).getD {})

def nonblank? (text : Option String) : Option String :=
  text.filter fun s => !(Text.trim s).isEmpty

def pick (texts : List (Option String)) (fallback : String) : String :=
  (texts.findSome? nonblank?).getD fallback

def resolve (overrides environment : Layer) (file : File) : Except Failure Settings := do
  let stored ← file.layer
  let choose (part : Layer → Option String) (fallback : String) : String :=
    pick [part overrides, part environment, part stored] fallback
  let defaults : Settings := {}
  let base ← normalizeBase (choose Layer.apiBase defaults.baseUrl)
  return {
    baseUrl := base
    rpcPath := Text.trim (choose Layer.rpcPath defaults.rpcPath)
    metaRpcPath := Text.trim (choose Layer.metaRpcPath defaults.metaRpcPath)
    loginPath := Text.trim (choose Layer.loginPath defaults.loginPath)
    timeoutSecs := (overrides.timeoutSecs.or stored.timeoutSecs).getD defaults.timeoutSecs }

end Settings

end RefData
