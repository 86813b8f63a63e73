import RefData.Number.Notation
import RefData.Url.Domain
import RefData.Url.Percent
set_option autoImplicit false

namespace RefData.Url

inductive Fault where
  | noBase
  | rootlessBase
  | emptyHost
  | badPort
  | badIpv4
  | badIpv6
  | badDomain
  | badHostCharacter
  deriving DecidableEq

namespace Fault

def message : Fault → String
  | noBase => "relative URL without a base"
  | rootlessBase => "relative URL with a cannot-be-a-base base"
  | emptyHost => "empty host"
  | badPort => "invalid port number"
  | badIpv4 => "invalid IPv4 address"
  | badIpv6 => "invalid IPv6 address"
  | badDomain => "invalid international domain name"
  | badHostCharacter => "invalid domain character"

end Fault

inductive Host where
  | domain (name : String)
  | ipv4 (address : Nat)
  | ipv6 (groups : List Nat)
  deriving DecidableEq

/-- A number of an IPv4 address: octal after a zero, hexadecimal after `0x`. A part of other
characters is none; the value has no bound here. -/
def ipv4Number? (cs : List Char) : Option Nat :=
  match cs with
  | [] => none
  | '0' :: 'x' :: digits => valueIn? 16 digits
  | '0' :: 'X' :: digits => valueIn? 16 digits
  | '0' :: d :: digits => valueIn? 8 (d :: digits)
  | digits => valueIn? 10 digits
where
  valueIn? (base : Nat) (digits : List Char) : Option Nat :=
    digits.foldl (fun acc c => do
      let n ← acc
      let d ← Json.hexValue? c
      if d < base then some (n * base + d) else none) (some 0)

def endsInNumber (name : List Char) : Bool :=
  let parts := (Text.pieces (· == '.') name).reverse
  let last := match parts with
    | [] :: next :: _ => next
    | next :: _ => next
    | [] => []
  !last.isEmpty && (last.all isDigit || (ipv4Number? last).isSome)

/-- The address of up to four numbers, of which the last fills the bytes that remain. -/
def parseIpv4 (name : List Char) : Except Fault Nat := do
  let parts := Text.pieces (· == '.') name
  let parts := match parts.reverse with
    | [] :: rest => rest.reverse
    | _ => parts
  if parts.length > 4 then throw .badIpv4
  let numbers ← match parts.mapM ipv4Number? with
    | some numbers => pure numbers
    | none => throw .badIpv4
  match numbers.reverse with
  | [] => throw .badIpv4
  | last :: front =>
    let front := front.reverse
    if last ≥ Nat.pow 256 (4 - front.length) || front.any (· > 255) then throw .badIpv4
    return front.zipIdx.foldl (fun sum (n, i) => sum + n * Nat.pow 256 (3 - i)) last

def ipv6Group? (cs : List Char) : Option Nat :=
  if cs.isEmpty || cs.length > 4 then none
  else cs.foldl (fun acc c => do
    let n ← acc
    let d ← Json.hexValue? c
    return n * 16 + d) (some 0)

def decimalByte? (cs : List Char) : Option Nat :=
  if cs.isEmpty || !cs.all isDigit || (cs.length > 1 && cs.head? == some '0') then none
  else
    let n := digitsValue cs
    if n ≤ 255 then some n else none

def ipv4Groups? (cs : List Char) : Option (List Nat) := do
  match ← (Text.pieces (· == '.') cs).mapM decimalByte? with
  | [a, b, c, d] => some [a * 256 + b, c * 256 + d]
  | _ => none

def ipv6Groups? (tailAllowed : Bool) (cs : List Char) : Option (List Nat) :=
  if cs.isEmpty then some []
  else
    match (Text.pieces (· == ':') cs).reverse with
    | [] => none
    | last :: front => do
      let front ← front.reverse.mapM ipv6Group?
      let tail ← if tailAllowed && last.contains '.' then ipv4Groups? last
        else (ipv6Group? last).map fun n => [n]
      return front ++ tail

def parseIpv6 (cs : List Char) : Except Fault (List Nat) :=
  let groups : Option (List Nat) :=
    match Text.splitFirst? [':', ':'] cs with
    | none => (ipv6Groups? true cs).filter fun groups => groups.length == 8
    | some (left, right) => do
      let left ← ipv6Groups? false left
      let right ← ipv6Groups? true right
      if left.length + right.length ≤ 7 then
        some (left ++ List.replicate (8 - left.length - right.length) 0 ++ right)
      else none
  match groups with
  | some groups => .ok groups
  | none => .error .badIpv6

def longestZeros (groups : List Nat) : Option (Nat × Nat) :=
  let runs := (List.range groups.length).map fun i =>
    (i, ((groups.drop i).takeWhile (· == 0)).length)
  runs.foldl (fun best run =>
    if run.2 < 2 then best
    else match best with
      | some b => if b.2 < run.2 then some run else best
      | none => some run) none

def ipv6Text (groups : List Nat) : List Char :=
  let hex (gs : List Nat) := Text.joinWith [':'] (gs.map (Nat.toDigits 16))
  match longestZeros groups with
  | none => hex groups
  | some (start, count) =>
    hex (groups.take start) ++ [':', ':'] ++ hex (groups.drop (start + count))

def ipv4Text (n : Nat) : List Char :=
  Text.joinWith ['.'] ([n / 16777216, n / 65536 % 256, n / 256 % 256, n % 256].map natDigits)

def bracketed (rest : List Char) : Except Fault Host :=
  match rest.reverse with
  | ']' :: inner => (parseIpv6 inner.reverse).map Host.ipv6
  | _ => .error .badIpv6

def parseHost (cs : List Char) : Except Fault Host :=
  match cs with
  | '[' :: rest => bracketed rest
  | _ =>
    match (Text.utf8Decode? (percentDecode cs)).bind asciiDomain? with
    | none => .error .badDomain
    | some [] => .error .emptyHost
    | some name =>
      if endsInNumber name then (parseIpv4 name).map Host.ipv4
      else .ok (.domain (String.ofList name))

def forbiddenInHost (c : Char) : Bool := "\x00\t\n\r #/:<>?@[\\]^|".toList.contains c

def parseOtherHost (cs : List Char) : Except Fault Host :=
  match cs with
  | '[' :: rest => bracketed rest
  | _ =>
    if cs.any forbiddenInHost then .error .badHostCharacter
    else .ok (.domain (String.ofList (percentEncode controlSet cs)))

namespace Host

def text : Host → List Char
  | domain name => name.toList
  | ipv4 n => ipv4Text n
  | ipv6 groups => '[' :: (ipv6Text groups ++ [']'])

def isEmpty : Host → Bool
  | domain name => name.isEmpty
  | _ => false

end Host

end RefData.Url
