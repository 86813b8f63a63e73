import RefData.Console.Run
import RefData.Http.Client
set_option autoImplicit false

namespace RefData.Console

open Http

-- The console reaches the backend through whoever started it: each request goes out as a line of
-- JSON, and its response comes back as one.

def deliveryJson (d : Delivery) : Json :=
  Json.ofFields [("request", Json.ofFields [
    ("method", .str d.method),
    ("url", .str d.url.text),
    ("headers", .arr (d.headers.map fun (name, value) => .ofStrs [name, value])),
    ("body", .str d.body)])]

def field? : Json → Option (String × String)
  | .arr [.str name, .str value] => some (name, value)
  | _ => none

def response? (line : String) : Option Response := do
  let v ← Json.parse? line
  return {
    status := ← (v.field? "status").bind Json.nat64?
    headers := Headers.ofWritten ((((v.field? "headers").bind Json.items?).getD []).filterMap field?)
    body := ((v.field? "body").bind Json.str?).getD "" }

def exchange (delivery : Delivery) : IO (Option Response) := do
  let output ← IO.getStdout
  output.putStrLn (deliveryJson delivery).compact
  output.flush
  return response? (← (← IO.getStdin).getLine)

def answer (client : Client) (call : Call) : IO (Reply × Client) := do
  match Client.requestOf client.settings call with
  | .error reason => return (.error reason, client)
  | .ok request =>
    match client.prepare? request with
    | none => return (.error (Client.unsendable request), client)
    | some delivery =>
      match client.receive delivery (← exchange delivery) with
      | (.ok response, client) => return (Client.readReply call response, client)
      | (.error reason, client) => return (.error reason, client)

def carryOut {α : Type} : Fetch α → Client → IO α
  | .done value, _ => return value
  | .ask call next, client => do
    let (reply, client) ← answer client call
    carryOut (next reply) client

def readText? (path : String) : IO (Option String) := do
  try return some (← IO.FS.readFile path) catch _ => return none

def settingsFile (connection : Connection) : IO Settings.File := do
  match connection.config with
  | some path => return .explicit path (← readText? path)
  | none =>
    let home := ((← IO.getEnv "HOME").getD "") ++ "/.config"
    let directory := (← IO.getEnv "XDG_CONFIG_HOME").getD home
    match ← readText? (directory ++ "/nsi/config.toml") with
    | some text => return .user text
    | none =>
      match ← readText? "/etc/nsi/config.toml" with
      | some text => return .user text
      | none => return .absent

def environment : IO Settings.Layer := do
  return {
    apiBase := ← IO.getEnv "NSI_API_BASE"
    rpcPath := ← IO.getEnv "NSI_RPC_PATH"
    metaRpcPath := ← IO.getEnv "NSI_META_RPC_PATH"
    loginPath := ← IO.getEnv "NSI_AUTH_LOGIN_PATH" }

def report (key text : String) : IO UInt32 := do
  IO.eprintln (Json.ofFields [(key, .str text)]).compact
  return 1

def run (invocation : Invocation) : IO UInt32 := do
  let connection := { invocation.connection with
    username := invocation.connection.username.or (← IO.getEnv "NSI_USERNAME")
    password := invocation.connection.password.or (← IO.getEnv "NSI_PASSWORD") }
  match Settings.resolve connection.overrides (← environment) (← settingsFile connection) with
  | .error reason => report "error" reason.message
  | .ok settings =>
    match ← carryOut (execute connection.credentials? invocation.command).run
        { settings := settings } with
    | .ok output => do
      IO.println (Json.ofFields [("result", output)]).compact
      return 0
    | .error fault => report "error" fault.summary

end RefData.Console

def main (args : List String) : IO UInt32 :=
  match RefData.Console.parse args with
  | .error fault => RefData.Console.report "arguments" fault.message
  | .ok invocation => RefData.Console.run invocation
