import RefData.Json.Value
import RefData.Number.Scaled
set_option autoImplicit false

namespace RefData.Json

def isJsonBlank (c : Char) : Bool := c == ' ' || c == '\t' || c == '\n' || c == '\r'

def skipBlanks (cs : List Char) : List Char := cs.dropWhile isJsonBlank

def hexValue? (c : Char) : Option Nat :=
  if '0' ≤ c && c ≤ '9' then some (c.toNat - '0'.toNat)
  else if 'a' ≤ c && c ≤ 'f' then some (c.toNat - 'a'.toNat + 10)
  else if 'A' ≤ c && c ≤ 'F' then some (c.toNat - 'A'.toNat + 10)
  else none

def hex4? (a b c d : Char) : Option Nat := do
  let a ← hexValue? a
  let b ← hexValue? b
  let c ← hexValue? c
  let d ← hexValue? d
  return ((a * 16 + b) * 16 + c) * 16 + d

def isHighSurrogate (n : Nat) : Bool := 0xD800 ≤ n && n ≤ 0xDBFF

def isLowSurrogate (n : Nat) : Bool := 0xDC00 ≤ n && n ≤ 0xDFFF

def pairValue (high low : Nat) : Nat := 0x10000 + (high - 0xD800) * 0x400 + (low - 0xDC00)

def escaped? (c : Char) : Option Char :=
  match c with
  | '"' => some '"'
  | '\\' => some '\\'
  | '/' => some '/'
  | 'b' => some '\x08'
  | 'f' => some '\x0c'
  | 'n' => some '\n'
  | 'r' => some '\r'
  | 't' => some '\t'
  | _ => none

/-- The rest of a string after its opening quote, with the characters read so far in reverse. The
two halves of a surrogate pair must stand together, and a bare control character is refused. -/
def readString? (acc : List Char) : List Char → Option (String × List Char)
  | [] => none
  | '"' :: rest => some (String.ofList acc.reverse, rest)
  | '\\' :: 'u' :: a :: b :: c :: d :: rest =>
    match hex4? a b c d with
    | none => none
    | some n =>
      if isHighSurrogate n then
        match rest with
        | '\\' :: 'u' :: e :: f :: g :: h :: rest =>
          match hex4? e f g h with
          | none => none
          | some low =>
            if isLowSurrogate low then readString? (Char.ofNat (pairValue n low) :: acc) rest
            else none
        | _ => none
      else if isLowSurrogate n then none
      else readString? (Char.ofNat n :: acc) rest
  | '\\' :: c :: rest =>
    match escaped? c with
    | none => none
    | some e => readString? (e :: acc) rest
  | c :: rest => if c.toNat < 32 then none else readString? (c :: acc) rest

def wholePart? (cs : List Char) : Option (List Char × List Char) :=
  match cs with
  | '0' :: rest => if (rest.head?.map isDigit).getD false then none else some (['0'], rest)
  | _ =>
    let digits := cs.takeWhile isDigit
    if digits.isEmpty then none else some (digits, cs.dropWhile isDigit)

def fractionPart? (cs : List Char) : Option (List Char × List Char) :=
  match cs with
  | '.' :: rest =>
    let digits := rest.takeWhile isDigit
    if digits.isEmpty then none else some (digits, rest.dropWhile isDigit)
  | _ => some ([], cs)

def exponentPart? (cs : List Char) : Option (Option Int × List Char) :=
  match cs with
  | c :: rest =>
    if c == 'e' || c == 'E' then
      let (neg, rest) := takeSign rest
      let digits := rest.takeWhile isDigit
      if digits.isEmpty then none
      else
        let n : Int := digitsValue digits
        some (some (if neg then -n else n), rest.dropWhile isDigit)
    else some (none, cs)
  | [] => some (none, cs)

def takeFitting (n : Nat) : List Char → Nat × List Char
  | [] => (n, [])
  | c :: rest =>
    let next := 10 * n + digitValue c
    if next < UInt64.size then takeFitting next rest else (n, c :: rest)

def toDouble? (neg : Bool) (whole fraction : List Char) (exponent : Int) : Option Binary64 :=
  let (n, wholeLeft) := takeFitting 0 whole
  let (n, fractionLeft) := takeFitting n fraction
  let taken := fraction.length - fractionLeft.length
  Binary64.ofParts? neg n (exponent + wholeLeft.length - taken)

/-- A number. Without point and exponent it is a whole number if 64 bits hold it; minus zero, and
whatever else remains, is a double, and a number too large for one is refused. -/
def readNumber? (cs : List Char) : Option (Json × List Char) := do
  let (neg, body) := match cs with
    | '-' :: rest => (true, rest)
    | _ => (false, cs)
  let (whole, rest) ← wholePart? body
  let (fraction, rest) ← fractionPart? rest
  let (exponent, rest) ← exponentPart? rest
  let magnitude : Int := digitsValue whole
  let n := if neg then -magnitude else magnitude
  if fraction.isEmpty && exponent.isNone && minInt64 ≤ n && n ≤ maxNat64 && !(neg && n == 0) then
    return (.int n, rest)
  else
    let x ← toDouble? neg whole fraction (exponent.getD 0)
    return (.float x, rest)

def maxDepth : Nat := 127

-- `fuel` bounds the number of steps, `depth` the nesting that is still allowed.
mutual

def readValue? (fuel depth : Nat) (cs : List Char) : Option (Json × List Char) :=
  match fuel with
  | 0 => none
  | fuel + 1 =>
    match skipBlanks cs with
    | 'n' :: 'u' :: 'l' :: 'l' :: rest => some (.null, rest)
    | 't' :: 'r' :: 'u' :: 'e' :: rest => some (.bool true, rest)
    | 'f' :: 'a' :: 'l' :: 's' :: 'e' :: rest => some (.bool false, rest)
    | '"' :: rest => (readString? [] rest).map fun (s, rest) => (.str s, rest)
    | '[' :: rest =>
      match depth with
      | 0 => none
      | depth + 1 =>
        match skipBlanks rest with
        | ']' :: rest => some (.arr [], rest)
        | rest => (readItems? fuel depth [] rest).map fun (vs, rest) => (.arr vs, rest)
    | '{' :: rest =>
      match depth with
      | 0 => none
      | depth + 1 =>
        match skipBlanks rest with
        | '}' :: rest => some (.obj [], rest)
        | rest => (readFields? fuel depth [] rest).map fun (fs, rest) => (.obj fs, rest)
    | rest => readNumber? rest

def readItems? (fuel depth : Nat) (acc : List Json) (cs : List Char) :
    Option (List Json × List Char) :=
  match fuel with
  | 0 => none
  | fuel + 1 => do
    let (v, rest) ← readValue? fuel depth cs
    match skipBlanks rest with
    | ',' :: rest => readItems? fuel depth (v :: acc) rest
    | ']' :: rest => some ((v :: acc).reverse, rest)
    | _ => none

def readFields? (fuel depth : Nat) (acc : List (String × Json)) (cs : List Char) :
    Option (List (String × Json) × List Char) :=
  match fuel with
  | 0 => none
  | fuel + 1 =>
    match skipBlanks cs with
    | '"' :: rest => do
      let (key, rest) ← readString? [] rest
      match skipBlanks rest with
      | ':' :: rest =>
        let (v, rest) ← readValue? fuel depth rest
        let acc := Assoc.insert key v acc
        match skipBlanks rest with
        | ',' :: rest => readFields? fuel depth acc rest
        | '}' :: rest => some (acc, rest)
        | _ => none
      | _ => none
    | _ => none

end

def parse? (text : String) : Option Json := do
  let cs := text.toList
  let (v, rest) ← readValue? (2 * cs.length + 2) maxDepth cs
  if (skipBlanks rest).isEmpty then some v else none

end RefData.Json
