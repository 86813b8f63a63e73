import RefData.Url.Host
set_option autoImplicit false

namespace RefData

namespace Url

inductive Path where
  | rooted (segments : List String)
  | rootless (text : String)
  deriving DecidableEq

end Url

open Url

structure Url where
  scheme : String
  username : String := ""
  password : String := ""
  host : Option Host := none
  portNumber : Option Nat := none
  path : Path
  query : Option String := none
  fragment : Option String := none
  deriving DecidableEq

namespace Url

def isSpecial (scheme : String) : Bool :=
  ["http", "https", "ws", "wss", "ftp", "file"].contains scheme

def defaultPort? (scheme : String) : Option Nat :=
  if scheme == "http" || scheme == "ws" then some 80
  else if scheme == "https" || scheme == "wss" then some 443
  else if scheme == "ftp" then some 21
  else none

def isRootless (u : Url) : Bool :=
  match u.path with
  | .rootless _ => true
  | .rooted _ => false

def segments (u : Url) : List String :=
  match u.path with
  | .rooted segments => segments
  | .rootless _ => []

/-- White space and controls around an address do not count, tabs and line breaks nowhere. -/
def clean (text : String) : List Char :=
  let isEdge (c : Char) := c.toNat ≤ 0x20
  (Text.dropEndWhile isEdge (text.toList.dropWhile isEdge)).filter fun c =>
    c != '\t' && c != '\n' && c != '\r'

def isSchemeChar (c : Char) : Bool := c.isAlphanum || c == '+' || c == '-' || c == '.'

def splitScheme? (cs : List Char) : Option (String × List Char) :=
  match cs with
  | c :: _ =>
    if c.isAlpha then
      match cs.dropWhile isSchemeChar with
      | ':' :: rest => some (String.ofList ((cs.takeWhile isSchemeChar).map Char.toLower), rest)
      | _ => none
    else none
  | [] => none

def isSlash (special : Bool) (c : Char) : Bool := c == '/' || special && c == '\\'

def isSingleDot (segment : List Char) : Bool :=
  let s := segment.map Char.toLower
  s == ['.'] || s == "%2e".toList

def isDoubleDot (segment : List Char) : Bool :=
  let s := segment.map Char.toLower
  s == ['.', '.'] || s == "%2e.".toList || s == ".%2e".toList || s == "%2e%2e".toList

def isDriveLetter (segment : List Char) : Bool :=
  match segment with
  | [c, d] => c.isAlpha && (d == ':' || d == '|')
  | _ => false

def isNormalDrive (segment : String) : Bool :=
  match segment.toList with
  | [c, ':'] => c.isAlpha
  | _ => false

def dropLastSegment (path : List String) : List String :=
  if path.getLast?.any fun last => isDriveLetter last.toList then path else path.dropLast

/-- Takes one segment into a path. A dot names the directory itself, two dots the one above; at the
end of the path both leave the directory open. -/
def addSegment (isFile : Bool) (path : List String) (segment : List Char) (isLast : Bool) :
    List String :=
  if isDoubleDot segment then
    let shorter := dropLastSegment path
    if isLast then shorter ++ [""] else shorter
  else if isSingleDot segment then
    if isLast then path ++ [""] else path
  else if isFile && path.isEmpty && isDriveLetter segment then
    path ++ [String.ofList [segment.headD ' ', ':']]
  else path ++ [String.ofList segment]

def addSegments (isFile : Bool) (path : List String) : List (List Char) → List String
  | [] => path
  | [last] => addSegment isFile path last true
  | s :: rest => addSegments isFile (addSegment isFile path s false) rest

/-- The path as it stays: empty segments at the start of a file's path do not count. -/
def settlePath (scheme : String) (path : List String) : List String :=
  if scheme == "file" then
    let rest := path.dropWhile String.isEmpty
    if rest.isEmpty then [""] else rest
  else path

def extendPath (scheme : String) (path : List String) (cs : List Char) : List String :=
  let divided := Text.pieces (isSlash (isSpecial scheme)) cs
  addSegments (scheme == "file") path (divided.map (percentEncode pathSet))

def splitTail (cs : List Char) : List Char × Option (List Char) × Option (List Char) :=
  let beforeFragment := cs.takeWhile (· != '#')
  let fragment := (cs.dropWhile (· != '#')).tail?
  let before := beforeFragment.takeWhile (· != '?')
  let query := (beforeFragment.dropWhile (· != '?')).tail?
  (before, query, fragment)

def encodeQuery (scheme : String) (q : List Char) : String :=
  String.ofList (percentEncode (if isSpecial scheme then specialQuerySet else querySet) q)

def encodeFragment (f : List Char) : String := String.ofList (percentEncode fragmentSet f)

def withTail (u : Url) (query fragment : Option (List Char)) : Url :=
  { u with
    query := query.map (encodeQuery u.scheme)
    fragment := fragment.map encodeFragment }

def splitPort (inBrackets : Bool) : List Char → List Char × Option (List Char)
  | [] => ([], none)
  | c :: rest =>
    if c == ':' && !inBrackets then ([], some rest)
    else
      let inside := if c == '[' then true else if c == ']' then false else inBrackets
      let (host, number) := splitPort inside rest
      (c :: host, number)

def parsePort (scheme : String) (digits : List Char) : Except Fault (Option Nat) :=
  if !digits.all isDigit then .error .badPort
  else
    let n := digitsValue digits
    if n > 65535 then .error .badPort
    else if digits.isEmpty || defaultPort? scheme == some n then .ok none
    else .ok (some n)

def parseUser (cs : List Char) : String × String :=
  let encode (part : List Char) := String.ofList (percentEncode userinfoSet part)
  (encode (cs.takeWhile (· != ':')), encode ((cs.dropWhile (· != ':')).drop 1))

structure Authority where
  username : String
  password : String
  host : Host
  portNumber : Option Nat
  more : List Char

def readHost (scheme : String) (text : List Char) : Except Fault Host :=
  if isSpecial scheme then parseHost text else parseOtherHost text

def readHostPort (scheme : String) (user hostPort : List Char) : Except Fault Authority :=
  let (username, password) := parseUser user
  let (hostText, portText) := splitPort false hostPort
  if hostText.isEmpty && (isSpecial scheme || portText.isSome) then .error .emptyHost
  else do
    let host ← readHost scheme hostText
    if host.isEmpty && !(username.isEmpty && password.isEmpty) then .error .emptyHost
    else
      -- A backslash ends the number, also where it is no slash.
      let (digits, more) := (portText.getD []).span (· != '\\')
      let portNumber ← parsePort scheme digits
      return ⟨username, password, host, portNumber, more⟩

def readAuthority (scheme : String) (text : List Char) (alone : Bool) : Except Fault Authority :=
  match Text.splitLast? '@' text with
  | some (user, hostPort) =>
    if user.isEmpty && hostPort.isEmpty && !alone then .error .emptyHost
    else readHostPort scheme user hostPort
  | none => readHostPort scheme [] text

def endsAuthority (special : Bool) (c : Char) : Bool := isSlash special c || c == '?' || c == '#'

def pathBehind (scheme : String) (text : List Char) : List String :=
  match text with
  | [] => if isSpecial scheme then [""] else []
  | c :: rest => extendPath scheme [] (if isSlash (isSpecial scheme) c then rest else text)

def parseAuthority (scheme : String) (cs : List Char) : Except Fault Url := do
  let inside (c : Char) := !endsAuthority (isSpecial scheme) c
  let rest := cs.dropWhile inside
  let authority ← readAuthority scheme (cs.takeWhile inside) rest.isEmpty
  let (pathText, query, fragment) := splitTail (authority.more ++ rest)
  return withTail
    { scheme := scheme, username := authority.username, password := authority.password
      host := some authority.host, portNumber := authority.portNumber
      path := .rooted (pathBehind scheme pathText) } query fragment

def underHost (base : Url) (path : List String) (cs : List Char) : Url :=
  let (pathText, query, fragment) := splitTail cs
  let whole := settlePath base.scheme (extendPath base.scheme path pathText)
  withTail { base with path := .rooted whole } query fragment

def resolveTail? (base : Url) (cs : List Char) : Option Url :=
  match cs with
  | [] => some { base with fragment := none }
  | '?' :: _ =>
    let (_, query, fragment) := splitTail cs
    some (withTail base query fragment)
  | '#' :: fragment => some { base with fragment := some (encodeFragment fragment) }
  | _ => none

def parseRelative (base : Url) (cs : List Char) : Except Fault Url :=
  match resolveTail? base cs with
  | some u => .ok u
  | none =>
    match cs with
    | c :: rest =>
      if c == '/' || c == '\\' then
        match rest with
        | d :: after =>
          if d == '/' || d == '\\' then
            let more := if c == '/' && d == '/' then after
              else after.dropWhile fun e => e == '/' || e == '\\'
            parseAuthority base.scheme more
          else .ok (underHost base [] rest)
        | [] => .ok (underHost base [] rest)
      else .ok (underHost base base.segments.dropLast cs)
    | [] => .ok base

/-- The host of a file address. The local host and none are the same; a drive letter is no host. -/
def parseFileHost (cs : List Char) : Except Fault (Host × List Char) :=
  let isEnd (c : Char) := c == '/' || c == '\\' || c == '?' || c == '#'
  let text := cs.takeWhile fun c => !isEnd c
  let rest := cs.dropWhile fun c => !isEnd c
  if isDriveLetter text then .ok (.domain "", cs)
  else if text.isEmpty then .ok (.domain "", rest)
  else do
    let host ← parseHost text
    return (if host = .domain "localhost" then .domain "" else host, rest)

def startsWithDrive (cs : List Char) : Bool :=
  isDriveLetter (cs.takeWhile fun c => c != '/' && c != '\\' && c != '?' && c != '#')

def isAnySlash (c : Char) : Bool := c == '/' || c == '\\'

def parseFile (base : Option Url) (cs : List Char) : Except Fault Url :=
  let root : Url := { scheme := "file", host := some (.domain ""), path := .rooted [""] }
  match cs with
  | c :: d :: rest =>
    if isAnySlash c && isAnySlash d then do
      let (host, rest) ← parseFileHost rest
      return onHost { root with host := some host } rest
    else if isAnySlash c then .ok (fromRoot root base (d :: rest))
    else .ok (fromHere root base cs)
  | [c] => if isAnySlash c then .ok (fromRoot root base []) else .ok (fromHere root base cs)
  | [] => .ok (fromHere root base cs)
where
  -- With a host, its slash is not part of the first segment, and a drive letter takes its place.
  onHost (root : Url) (rest : List Char) : Url :=
    if root.host.all Host.isEmpty then underHost root [] rest
    else
      let rest := if rest.head?.any isAnySlash then rest.drop 1 else rest
      let start := extendPath "file" [] (splitTail rest).1
      let isLocal := start.head?.any isNormalDrive
      underHost (if isLocal then { root with host := some (.domain "") } else root) [] rest
  fromRoot (root : Url) (base : Option Url) (rest : List Char) : Url :=
    match base with
    | some b =>
      if startsWithDrive rest then underHost root [] rest
      else match b.segments.head?.filter isNormalDrive with
        | some drive => underHost root [drive] rest
        | none => underHost { root with host := b.host } [] rest
    | none => underHost root [] rest
  fromHere (root : Url) (base : Option Url) (cs : List Char) : Url :=
    match base with
    | some b =>
      match resolveTail? b cs with
      | some u => u
      | none =>
        if startsWithDrive cs then underHost root [] cs
        else underHost b (dropLastSegment b.segments) cs
    | none => underHost root [] cs

def parseOther (scheme : String) (cs : List Char) : Except Fault Url :=
  match cs with
  | '/' :: '/' :: rest => parseAuthority scheme rest
  | '/' :: rest => .ok (underHost { scheme := scheme, path := .rooted [] } [] rest)
  | _ =>
    let (text, query, fragment) := splitTail cs
    let path := Path.rootless (String.ofList (percentEncode controlSet text))
    .ok (withTail { scheme := scheme, path := path } query fragment)

def resolve (base : Option Url) (text : String) : Except Fault Url :=
  let cs := clean text
  match splitScheme? cs with
  | some (scheme, rest) =>
    if scheme == "file" then parseFile (base.filter (·.scheme == "file")) rest
    else if isSpecial scheme then
      let slashes := (rest.takeWhile fun c => c == '/' || c == '\\').length
      match base.filter fun b => slashes < 2 && b.scheme == scheme with
      | some b => parseRelative b rest
      | none => parseAuthority scheme (rest.drop slashes)
    else parseOther scheme rest
  | none =>
    match base with
    | none => .error .noBase
    | some b =>
      if b.isRootless then
        match cs with
        | '#' :: fragment => .ok { b with fragment := some (encodeFragment fragment) }
        | _ => .error .rootlessBase
      else if b.scheme == "file" then parseFile (some b) cs
      else parseRelative b cs

def parse (text : String) : Except Fault Url := resolve none text

def join (base : Url) (text : String) : Except Fault Url := resolve (some base) text

def userText (u : Url) : List Char :=
  if u.username.isEmpty && u.password.isEmpty then []
  else
    let password := if u.password.isEmpty then [] else ':' :: u.password.toList
    u.username.toList ++ password ++ ['@']

def portText (u : Url) : List Char :=
  match u.portNumber with
  | some n => ':' :: natDigits n
  | none => []

def pathText (u : Url) : List Char :=
  match u.path with
  | .rootless text => text.toList
  | .rooted segments => segments.flatMap fun s => '/' :: s.toList

/-- The scheme, the authority and the path. Without a host, a path that starts with two slashes is
set off by a dot, so that it is not read as an authority. -/
def text (u : Url) : String :=
  let authority := match u.host with
    | some host => ['/', '/'] ++ u.userText ++ host.text ++ u.portText
    | none =>
      match u.path with
      | .rooted ("" :: _ :: _) => ['/', '.']
      | _ => []
  let query := match u.query with
    | some q => '?' :: q.toList
    | none => []
  let fragment := match u.fragment with
    | some f => '#' :: f.toList
    | none => []
  String.ofList (u.scheme.toList ++ ':' :: authority ++ u.pathText ++ query ++ fragment)

def origin (u : Url) : String :=
  match u.host with
  | some host =>
    if isSpecial u.scheme && u.scheme != "file" then
      String.ofList (u.scheme.toList ++ "://".toList ++ host.text ++ u.portText)
    else "null"
  | none => "null"

end Url

end RefData
