import RefData.Calendar
import RefData.Json.Reader
import RefData.Text.Utf8
import RefData.Toml.Value
set_option autoImplicit false

namespace RefData.Toml

def isSpace (c : Char) : Bool := c == ' ' || c == '\t'

def skipSpaces (cs : List Char) : List Char := cs.dropWhile isSpace

def isPlain (c : Char) : Bool := c == '\t' || 0x20 ≤ c.toNat && c.toNat != 0x7F

def newline? : List Char → Option (List Char)
  | '\n' :: rest => some rest
  | '\r' :: '\n' :: rest => some rest
  | _ => none

def skipComment : List Char → List Char
  | '#' :: rest => rest.dropWhile isPlain
  | rest => rest

def lineEnd? (cs : List Char) : Option (List Char) :=
  match skipComment (skipSpaces cs) with
  | [] => some []
  | rest => newline? rest

def skipLines (fuel : Nat) (cs : List Char) : List Char :=
  match fuel with
  | 0 => cs
  | fuel + 1 =>
    let rest := skipSpaces cs
    match newline? (skipComment rest) with
    | some next => skipLines fuel next
    | none => rest

def skipBreaks (fuel : Nat) (cs : List Char) : List Char :=
  match fuel with
  | 0 => cs
  | fuel + 1 =>
    let rest := skipSpaces cs
    match newline? rest with
    | some next => skipBreaks fuel next
    | none => rest

def escaped? (c : Char) : Option Char :=
  match c with
  | '"' => some '"'
  | '\\' => some '\\'
  | 'b' => some '\x08'
  | 'f' => some '\x0c'
  | 'n' => some '\n'
  | 'r' => some '\r'
  | 't' => some '\t'
  | _ => none

def numbered? (count : Nat) (cs : List Char) : Option (Char × List Char) := do
  let digits ← (cs.take count).mapM Json.hexValue?
  let n := digits.foldl (fun n d => 16 * n + d) 0
  if digits.length = count ∧ Text.isScalar n then some (Char.ofNat n, cs.drop count) else none

def escape? : List Char → Option (Char × List Char)
  | 'u' :: rest => numbered? 4 rest
  | 'U' :: rest => numbered? 8 rest
  | c :: rest => (escaped? c).map fun e => (e, rest)
  | [] => none

def readQuoted? (fuel : Nat) (acc : List Char) (cs : List Char) : Option (String × List Char) :=
  match fuel, cs with
  | fuel + 1, c :: rest =>
    if c == '"' then some (String.ofList acc.reverse, rest)
    else if c == '\\' then do
      let (e, rest) ← escape? rest
      readQuoted? fuel (e :: acc) rest
    else if isPlain c then readQuoted? fuel (c :: acc) rest
    else none
  | _, _ => none

def readLiteral? (cs : List Char) : Option (String × List Char) :=
  let body := cs.takeWhile fun c => isPlain c && c != '\x27'
  match cs.drop body.length with
  | '\x27' :: rest => some (String.ofList body, rest)
  | _ => none

/-- The rest of a text of several lines. Three quotes end it, and up to two more before them belong
to it. -/
def readLong? (quote : Char) (fuel : Nat) (acc : List Char) (cs : List Char) :
    Option (String × List Char) :=
  match fuel with
  | 0 => none
  | fuel + 1 =>
    match newline? cs with
    | some rest => readLong? quote fuel ('\n' :: acc) rest
    | none =>
      match cs with
      | [] => none
      | c :: rest =>
        if c == quote then
          let run := cs.takeWhile (· == quote)
          if run.length < 3 then readLong? quote fuel (run ++ acc) (cs.drop run.length)
          else
            let inner := min (run.length - 3) 2
            some (String.ofList (acc.reverse ++ List.replicate inner quote), cs.drop (inner + 3))
        else if c == '\\' && quote == '"' then
          match newline? (skipSpaces rest) with
          | some next => readLong? quote fuel acc (skipBreaks next.length next)
          | none => do
            let (e, rest) ← escape? rest
            readLong? quote fuel (e :: acc) rest
        else if isPlain c then readLong? quote fuel (c :: acc) rest
        else none

def readText? (cs : List Char) : Option (String × List Char) :=
  let long (quote : Char) (rest : List Char) :=
    readLong? quote (rest.length + 1) [] ((newline? rest).getD rest)
  match cs with
  | '"' :: '"' :: '"' :: rest => long '"' rest
  | '"' :: rest => readQuoted? (rest.length + 1) [] rest
  | '\x27' :: '\x27' :: '\x27' :: rest => long '\x27' rest
  | '\x27' :: rest => readLiteral? rest
  | _ => none

def isBareKeyChar (c : Char) : Bool := c.isAlphanum || c == '-' || c == '_'

def readSimpleKey? (cs : List Char) : Option (String × List Char) :=
  match cs with
  | '"' :: rest => readQuoted? (rest.length + 1) [] rest
  | '\x27' :: rest => readLiteral? rest
  | _ =>
    let key := cs.takeWhile isBareKeyChar
    if key.isEmpty then none else some (String.ofList key, cs.dropWhile isBareKeyChar)

def nestingLimit : Nat := 79

def readKey? (fuel : Nat) (path : List String) (cs : List Char) :
    Option (List String × String × List Char) :=
  match fuel with
  | 0 => none
  | fuel + 1 => do
    let (step, rest) ← readSimpleKey? (skipSpaces cs)
    match skipSpaces rest with
    | '.' :: rest => readKey? fuel (path ++ [step]) rest
    | rest => some (path, step, rest)

def readDigits? (digit : Char → Bool) (cs : List Char) : Option (List Char × List Char) :=
  match cs with
  | [] => none
  | c :: rest =>
    if digit c then
      let (more, rest) := following rest
      some (c :: more, rest)
    else none
where
  following : List Char → List Char × List Char
    | '_' :: c :: rest =>
      if digit c then
        let (more, rest) := following rest
        (c :: more, rest)
      else ([], '_' :: c :: rest)
    | c :: rest =>
      if digit c then
        let (more, rest) := following rest
        (c :: more, rest)
      else ([], c :: rest)
    | [] => ([], [])

def readDecimalInt? (cs : List Char) : Option (Bool × List Char × List Char) :=
  let (neg, body) := takeSign cs
  match body with
  | '0' :: rest => some (neg, ['0'], rest)
  | _ => (readDigits? isDigit body).map fun (digits, rest) => (neg, digits, rest)

def readExponent? : List Char → Option (Int × List Char)
  | c :: rest =>
    if c == 'e' || c == 'E' then
      let (neg, body) := takeSign rest
      (readDigits? isDigit body).map fun (digits, rest) =>
        let n : Int := digitsValue digits
        (if neg then -n else n, rest)
    else none
  | [] => none

/-- A number with a fraction or an exponent. One that is too large is refused above zero only. -/
def readFloat? (cs : List Char) : Option (List Char) := do
  let finite (neg : Bool) (digits : List Char) (exponent : Int) (rest : List Char) :=
    if neg || (Binary64.ofDecimal? neg (digitsValue digits) exponent).isSome then some rest else none
  let (neg, lead, rest) ← readDecimalInt? cs
  match rest with
  | '.' :: rest =>
    let (fraction, rest) ← readDigits? isDigit rest
    let scale : Int := fraction.length
    match readExponent? rest with
    | some (exponent, rest) => finite neg (lead ++ fraction) (exponent - scale) rest
    | none => finite neg (lead ++ fraction) (-scale) rest
  | rest =>
    let (exponent, rest) ← readExponent? rest
    finite neg lead exponent rest

def readSpecialFloat? (cs : List Char) : Option (List Char) :=
  match (takeSign cs).2 with
  | 'i' :: 'n' :: 'f' :: rest => some rest
  | 'n' :: 'a' :: 'n' :: rest => some rest
  | _ => none

def readRadix? (base : Nat) (cs : List Char) : Option (Int × List Char) := do
  let digit (c : Char) : Bool := (Json.hexValue? c).any (· < base)
  let (digits, rest) ← readDigits? digit cs
  let n := digits.foldl (fun n c => base * n + (Json.hexValue? c).getD 0) 0
  return (n, rest)

def readWhole? (cs : List Char) : Option (Int × List Char) := do
  let (n, rest) ← match cs with
    | '0' :: 'x' :: rest => readRadix? 16 rest
    | '0' :: 'o' :: rest => readRadix? 8 rest
    | '0' :: 'b' :: rest => readRadix? 2 rest
    | _ =>
      (readDecimalInt? cs).map fun (neg, digits, rest) =>
        let n : Int := digitsValue digits
        (if neg then -n else n, rest)
  if minInt64 ≤ n ∧ n ≤ maxInt64 then some (n, rest) else none

def readField? (count : Nat) (cs : List Char) : Option (Nat × List Char) :=
  let digits := (cs.take count).takeWhile isDigit
  if digits.length = count then some (digitsValue digits, cs.drop count) else none

def mark? (c : Char) : List Char → Option (List Char)
  | d :: rest => if c == d then some rest else none
  | [] => none

def readDate? (cs : List Char) : Option (List Char) := do
  let (year, rest) ← readField? 4 cs
  let (month, rest) ← readField? 2 (← mark? '-' rest)
  let (day, rest) ← readField? 2 (← mark? '-' rest)
  if Date.isValid ⟨year, month, day⟩ then some rest else none

def readTime? (cs : List Char) : Option (List Char) := do
  let (hour, rest) ← readField? 2 cs
  let (minute, rest) ← readField? 2 (← mark? ':' rest)
  let (second, rest) ← readField? 2 (← mark? ':' rest)
  if hour ≤ 23 ∧ minute ≤ 59 ∧ second ≤ 60 then
    match rest with
    | '.' :: fraction =>
      if (fraction.head?.map isDigit).getD false then some (fraction.dropWhile isDigit) else some rest
    | _ => some rest
  else none

def skipOffset (cs : List Char) : List Char :=
  let distance (rest : List Char) : Option (List Char) := do
    let (hour, rest) ← readField? 2 rest
    let (minute, rest) ← readField? 2 (← mark? ':' rest)
    if hour ≤ 23 ∧ minute ≤ 59 then some rest else none
  match cs with
  | c :: rest =>
    if c == 'Z' || c == 'z' then rest
    else if c == '+' || c == '-' then (distance rest).getD cs
    else cs
  | [] => []

def readMoment? (cs : List Char) : Option (List Char) :=
  match readDate? cs with
  | none => readTime? cs
  | some rest =>
    match rest with
    | c :: time =>
      if c == 'T' || c == 't' || c == ' ' then
        match readTime? time with
        | some rest => some (skipOffset rest)
        | none => some rest
      else some rest
    | [] => some []

def readNumber? (cs : List Char) : Option (Toml × List Char) :=
  match readMoment? cs, (readFloat? cs).or (readSpecialFloat? cs) with
  | some rest, _ => some (.moment, rest)
  | none, some rest => some (.scalar, rest)
  | none, none => (readWhole? cs).map fun (n, rest) => (.whole n, rest)

-- `fuel` bounds the number of steps, `depth` the nesting that is still allowed.
mutual

def readValue? (fuel depth : Nat) (cs : List Char) : Option (Toml × List Char) :=
  match fuel with
  | 0 => none
  | fuel + 1 =>
    match cs with
    | '"' :: _ => (readText? cs).map fun (s, rest) => (.text s, rest)
    | '\x27' :: _ => (readText? cs).map fun (s, rest) => (.text s, rest)
    | 't' :: 'r' :: 'u' :: 'e' :: rest => some (.scalar, rest)
    | 'f' :: 'a' :: 'l' :: 's' :: 'e' :: rest => some (.scalar, rest)
    | '[' :: rest =>
      match depth with
      | 0 => none
      | depth + 1 =>
        (readItems? fuel depth [] rest).map fun (items, rest) => (.list items.reverse, rest)
    | '{' :: rest =>
      match depth with
      | 0 => none
      | depth + 1 =>
        match skipSpaces rest with
        | '}' :: rest => some (.table .inside [], rest)
        | rest => do
          let (pairs, rest) ← readPairs? fuel depth [] rest
          let table ← ofPairs? pairs.reverse
          return (table, rest)
    | _ => readNumber? cs

def readItems? (fuel depth : Nat) (acc : List Toml) (cs : List Char) :
    Option (List Toml × List Char) :=
  match fuel with
  | 0 => none
  | fuel + 1 =>
    match skipLines cs.length cs with
    | ']' :: rest => some (acc, rest)
    | rest => do
      let (v, rest) ← readValue? fuel depth rest
      match skipLines rest.length rest with
      | ',' :: rest => readItems? fuel depth (v :: acc) rest
      | ']' :: rest => some (v :: acc, rest)
      | _ => none

def readPairs? (fuel depth : Nat) (acc : List (List String × String × Toml)) (cs : List Char) :
    Option (List (List String × String × Toml) × List Char) :=
  match fuel with
  | 0 => none
  | fuel + 1 => do
    let (path, key, rest) ← readKey? nestingLimit [] cs
    let rest ← mark? '=' rest
    let (v, rest) ← readValue? fuel depth (skipSpaces rest)
    match skipSpaces rest with
    | ',' :: rest => readPairs? fuel depth ((path, key, v) :: acc) rest
    | '}' :: rest => some ((path, key, v) :: acc, rest)
    | _ => none

end

def readEntry? (cs : List Char) : Option (Entry × List Char) :=
  match cs with
  | '[' :: '[' :: rest => do
    let (path, key, rest) ← readKey? nestingLimit [] rest
    let rest ← lineEnd? (← mark? ']' (← mark? ']' rest))
    return (.rowHeader path key, rest)
  | '[' :: rest => do
    let (path, key, rest) ← readKey? nestingLimit [] rest
    let rest ← lineEnd? (← mark? ']' rest)
    return (.tableHeader path key, rest)
  | _ => do
    let (path, key, rest) ← readKey? nestingLimit [] cs
    let rest ← mark? '=' rest
    let (v, rest) ← readValue? (2 * rest.length + 2) nestingLimit (skipSpaces rest)
    let rest ← lineEnd? rest
    return (.value path key v, rest)

def readEntries? (fuel : Nat) (acc : List Entry) (cs : List Char) : Option (List Entry) :=
  match fuel with
  | 0 => none
  | fuel + 1 =>
    match skipLines cs.length cs with
    | [] => some acc.reverse
    | rest =>
      if (skipComment rest).isEmpty then some acc.reverse
      else do
        let (entry, rest) ← readEntry? rest
        readEntries? fuel (entry :: acc) rest

def byteOrderMark : Char := Char.ofNat 0xFEFF

def parse? (text : String) : Option Fields := do
  let cs := match text.toList with
    | c :: rest => if c = byteOrderMark then rest else c :: rest
    | [] => []
  ofEntries? (← readEntries? (cs.length + 1) [] cs)

end RefData.Toml
