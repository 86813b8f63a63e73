import RefData.Catalog.Dashboard
import RefData.Exchange.Session
import RefData.Settings
set_option autoImplicit false

namespace RefData.Console

inductive SnapshotKind where
  | parameters
  | defects
  | components
  | objectTypes
  | sources
  deriving DecidableEq

namespace SnapshotKind

def all : List SnapshotKind := [.parameters, .defects, .components, .objectTypes, .sources]

def name : SnapshotKind → String
  | .parameters => "parameters"
  | .defects => "defects"
  | .components => "components"
  | .objectTypes => "object-types"
  | .sources => "sources"

def ofName? (word : String) : Option SnapshotKind := all.find? (·.name == word)

end SnapshotKind

inductive Command where
  | login
  | whoami
  | snapshot (kind : SnapshotKind)
  | dashboard (limit : Nat)
  | search (query : String)
  deriving DecidableEq

def Command.name : Command → String
  | .login => "Login"
  | .whoami => "Whoami"
  | .snapshot _ => "Snapshot"
  | .dashboard _ => "Dashboard"
  | .search _ => "Search"

structure Connection where
  apiBase : Option String := none
  config : Option String := none
  timeout : Option Nat := none
  username : Option String := none
  password : Option String := none
  deriving DecidableEq

namespace Connection

def credentials? (c : Connection) : Option Credentials := do
  let username := Text.trim (← c.username)
  let password ← c.password
  if username.isEmpty then none else some ⟨username, password⟩

def overrides (c : Connection) : Settings.Layer :=
  { apiBase := c.apiBase, timeoutSecs := c.timeout }

end Connection

structure Invocation where
  connection : Connection
  command : Command
  deriving DecidableEq

inductive ArgumentFault where
  | badValue
  | unreadableValue
  | unknownArgument
  | unknownCommand
  | valueOfFlag
  | missingArgument
  | missingCommand
  | repeatedOption
  | helpAsked
  | helpNeeded
  | versionAsked
  deriving DecidableEq

def ArgumentFault.message : ArgumentFault → String
  | .badValue => "a value is missing or not allowed"
  | .unreadableValue => "a value is not a number of the right range"
  | .unknownArgument => "an argument is not known"
  | .unknownCommand => "the command is not known"
  | .valueOfFlag => "a flag takes no value"
  | .missingArgument => "the command needs another argument"
  | .missingCommand => "a command is needed"
  | .repeatedOption => "an option is given twice"
  | .helpAsked => "help"
  | .helpNeeded => "a command is needed, see --help"
  | .versionAsked => "version"

inductive ValueKind where
  | text
  | filePath
  | long
  | short
  | snapshotKind

namespace ValueKind

def long? (text : String) : Option Nat := (readNatUpTo? maxNat64 text.toList).map Int.toNat

def short? (text : String) : Option Nat :=
  ((readInt64? text.toList).filter fun n => 0 ≤ n && n ≤ maxNat32).map Int.toNat

def check (kind : ValueKind) (text : String) : Except ArgumentFault Unit :=
  let demand (holds : Bool) (fault : ArgumentFault) : Except ArgumentFault Unit :=
    if holds then .ok () else .error fault
  match kind with
  | .text => .ok ()
  | .filePath => demand (!text.isEmpty) .badValue
  | .long => demand (long? text).isSome .unreadableValue
  | .short => demand (short? text).isSome .unreadableValue
  | .snapshotKind => demand (SnapshotKind.ofName? text).isSome .badValue

end ValueKind

structure Level where
  options : List (String × ValueKind)
  positional : Option ValueKind := none
  commands : List String := []
  hasVersion : Bool := false

def sharedOptions : List (String × ValueKind) := [
  ("api-base", .text),
  ("config", .filePath),
  ("timeout", .long),
  ("username", .text),
  ("password", .text)]

def helpCommand : String := "help"

def commandNames : List String :=
  ["login", "whoami", "snapshot", "dashboard", "search", helpCommand]

def programLevel : Level :=
  { options := sharedOptions, commands := commandNames, hasVersion := true }

def commandLevel (name : String) : Level :=
  if name = "snapshot" then { options := sharedOptions, positional := some .snapshotKind }
  else if name = "dashboard" then { options := ("activity-limit", .short) :: sharedOptions }
  else if name = "search" then { options := sharedOptions, positional := some .text }
  else { options := sharedOptions }

inductive Pending where
  | nothing
  | option (name : String) (kind : ValueKind) (value : Option String)
  | positional (kind : ValueKind) (value : String)

structure Scan where
  given : List (String × String) := []
  operand : Option String := none
  pending : Pending := .nothing

namespace Scan

def settle (s : Scan) : Except ArgumentFault Scan :=
  match s.pending with
  | .nothing => .ok s
  | .option _ _ none => .error .badValue
  | .option name kind (some value) =>
    if s.given.any (·.1 == name) then .error .repeatedOption
    else do
      kind.check value
      return { s with given := s.given ++ [(name, value)], pending := .nothing }
  | .positional kind value => do
    kind.check value
    return { s with operand := some value, pending := .nothing }

def isWaiting (s : Scan) : Bool :=
  match s.pending with
  | .option _ _ none => true
  | _ => false

def hasOperand (s : Scan) : Bool :=
  match s.pending with
  | .positional _ _ => true
  | _ => s.operand.isSome

def value? (s : Scan) (name : String) : Option String :=
  (s.given.find? (·.1 == name)).map Prod.snd

end Scan

inductive Shape where
  | escape
  | long (name : String) (value : Option String)
  | short (flags : List Char)
  | plain

def shapeOf (arg : String) : Shape :=
  match arg.toList with
  | ['-', '-'] => .escape
  | '-' :: '-' :: rest =>
    match Text.splitFirst? ['='] rest with
    | some (name, value) => .long (String.ofList name) (some (String.ofList value))
    | none => .long (String.ofList rest) none
  | '-' :: c :: rest => .short (c :: rest)
  | _ => .plain

def helpFault : List String → ArgumentFault
  | [] => .helpAsked
  | [name] => if commandNames.contains name then .helpAsked else .unknownCommand
  | _ => .unknownCommand

def strayFault (level : Level) (trailing : Bool) (arg : String) : ArgumentFault :=
  if level.commands.isEmpty || trailing && level.commands.contains arg then .unknownArgument
  else .unknownCommand

def addOperand (level : Level) (trailing : Bool) (s : Scan) (arg : String) :
    Except ArgumentFault Scan :=
  match level.positional with
  | some kind =>
    if s.hasOperand then .error (strayFault level trailing arg)
    else do return { ← s.settle with pending := .positional kind arg }
  | none => .error (strayFault level trailing arg)

def stop (s : Scan) (fault : ArgumentFault) : Except ArgumentFault Scan := do
  let _ ← s.settle
  throw fault

def addLong (level : Level) (s : Scan) (name : String) (value : Option String) :
    Except ArgumentFault Scan :=
  let flag (fault : ArgumentFault) : Except ArgumentFault Scan :=
    if value.isSome then .error .valueOfFlag else stop s fault
  match level.options.find? (·.1 == name) with
  | some (_, kind) => do
    let s := { ← s.settle with pending := .option name kind value }
    if value.isSome then s.settle else return s
  | none =>
    if name = "help" then flag .helpAsked
    else if name = "version" && level.hasVersion then flag .versionAsked
    else .error .unknownArgument

def addShort (level : Level) (s : Scan) (flags : List Char) : Except ArgumentFault Scan :=
  match flags with
  | 'h' :: _ => stop s .helpAsked
  | 'V' :: _ => if level.hasVersion then stop s .versionAsked else .error .unknownArgument
  | _ => .error .unknownArgument

/-- Reads one level. It ends with the arguments, or before the name of a command, which comes with
the arguments after it. -/
def scan (level : Level) (trailing : Bool) (s : Scan) :
    List String → Except ArgumentFault (Scan × Option (String × List String))
  | [] => .ok (s, none)
  | arg :: rest =>
    if trailing then do
      scan level true (← addOperand level true s arg) rest
    else if !s.isWaiting && level.commands.contains arg then
      if arg = helpCommand then .error (helpFault rest) else .ok (s, some (arg, rest))
    else
      match shapeOf arg with
      | .escape => scan level true s rest
      | .long name value => do scan level false (← addLong level s name value) rest
      | .short flags => do scan level false (← addShort level s flags) rest
      | .plain =>
        match s.pending with
        | .option name kind none =>
          scan level false { s with pending := .option name kind (some arg) } rest
        | _ => do scan level false (← addOperand level false s arg) rest

def commandOf (name : String) (s : Scan) : Except ArgumentFault Command :=
  let operand : Except ArgumentFault String :=
    match s.operand with
    | some text => .ok text
    | none => .error .missingArgument
  if name = "login" then .ok .login
  else if name = "whoami" then .ok .whoami
  else if name = "snapshot" then do
    match SnapshotKind.ofName? (← operand) with
    | some kind => return .snapshot kind
    | none => throw .badValue
  else if name = "dashboard" then
    let limit := ((s.value? "activity-limit").bind ValueKind.short?).getD
      Dashboard.defaultActivityLimit
    .ok (.dashboard limit)
  else do return .search (← operand)

def connectionOf (program command : Scan) : Connection :=
  let value? (name : String) := (command.value? name).or (program.value? name)
  { apiBase := value? "api-base"
    config := value? "config"
    timeout := (value? "timeout").bind ValueKind.long?
    username := value? "username"
    password := value? "password" }

/-- Reads the arguments of the program. The arguments of a command are judged before the last one
of those in front of it. -/
def parse (args : List String) : Except ArgumentFault Invocation := do
  match ← scan programLevel false {} args with
  | (program, none) =>
    let program ← program.settle
    throw (if program.given.isEmpty then .helpNeeded else .missingCommand)
  | (program, some (name, rest)) =>
    let (command, _) ← scan (commandLevel name) false {} rest
    let command ← command.settle
    let chosen ← commandOf name command
    let program ← program.settle
    return { connection := connectionOf program command, command := chosen }

end RefData.Console
