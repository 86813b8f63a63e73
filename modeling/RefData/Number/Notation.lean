import RefData.Number.Shortest
set_option autoImplicit false

namespace RefData

def natDigits (n : Nat) : List Char := Nat.toDigits 10 n

def intText (n : Int) : List Char :=
  if n < 0 then '-' :: natDigits n.natAbs else natDigits n.natAbs

def isDigit (c : Char) : Bool := '0' ≤ c && c ≤ '9'

def digitValue (c : Char) : Nat := c.toNat - '0'.toNat

def digitsValue (cs : List Char) : Nat := cs.foldl (fun n c => 10 * n + digitValue c) 0

namespace Binary64

/-- Text of a magnitude from its digits and the power of ten of the first one. Powers from -5 to 15
are written in place with at least one digit after the point, all others with a signed exponent. -/
def layout (digits : List Char) (lead : Int) : List Char :=
  if -5 ≤ lead ∧ lead ≤ 15 then
    if lead < 0 then
      '0' :: '.' :: (List.replicate (-lead - 1).toNat '0' ++ digits)
    else
      let whole := lead.toNat + 1
      let padded := digits ++ List.replicate (whole - digits.length) '0'
      let fraction := digits.drop whole
      padded.take whole ++ '.' :: (if fraction.isEmpty then ['0'] else fraction)
  else
    let mantissa := match digits with
      | [] => []
      | [d] => [d]
      | d :: rest => d :: '.' :: rest
    let sign := if lead < 0 then '-' else '+'
    mantissa ++ 'e' :: sign :: natDigits lead.natAbs

def text (x : Binary64) : List Char :=
  let magnitude :=
    if x.isZero then ['0', '.', '0']
    else
      let d := x.shortest
      let all := natDigits d.digits
      let significant := (all.reverse.dropWhile (· == '0')).reverse
      layout significant (d.place + (all.length : Int) - 1)
  if x.neg then '-' :: magnitude else magnitude

end Binary64

structure DecimalLiteral where
  neg : Bool
  digits : List Char
  exponent : Int

namespace DecimalLiteral

def toBinary64? (d : DecimalLiteral) : Option Binary64 :=
  Binary64.ofDecimal? d.neg (digitsValue d.digits) d.exponent

end DecimalLiteral

def takeSign : List Char → Bool × List Char
  | '-' :: rest => (true, rest)
  | '+' :: rest => (false, rest)
  | rest => (false, rest)

def exponent? (cs : List Char) : Option Int :=
  let (neg, digits) := takeSign cs
  if digits.isEmpty || !digits.all isDigit then none
  else
    let n : Int := digitsValue digits
    some (if neg then -n else n)

/-- Reads a decimal number in the usual loose form: a sign, digits with a point anywhere among
them, an exponent. At least one digit is needed; nothing may stand around the number. -/
def readDecimal? (cs : List Char) : Option DecimalLiteral :=
  let (neg, body) := takeSign cs
  let whole := body.takeWhile isDigit
  let afterWhole := body.dropWhile isDigit
  let (fraction, tail) := match afterWhole with
    | '.' :: rest => (rest.takeWhile isDigit, rest.dropWhile isDigit)
    | rest => ([], rest)
  if whole.isEmpty && fraction.isEmpty then none
  else
    let literal (e : Int) : DecimalLiteral :=
      ⟨neg, whole ++ fraction, e - fraction.length⟩
    match tail with
    | [] => some (literal 0)
    | c :: rest => if c == 'e' || c == 'E' then (exponent? rest).map literal else none

def readInt? (cs : List Char) : Option Int :=
  let (neg, digits) := takeSign cs
  if digits.isEmpty || !digits.all isDigit then none
  else
    let n : Int := digitsValue digits
    some (if neg then -n else n)

def minInt64 : Int := -0x8000000000000000
def maxInt64 : Int := 0x7fffffffffffffff
def maxNat64 : Int := 0xffffffffffffffff
def maxNat32 : Int := 0xffffffff

def readInt64? (cs : List Char) : Option Int :=
  (readInt? cs).filter fun n => minInt64 ≤ n && n ≤ maxInt64

def readNatUpTo? (bound : Int) (cs : List Char) : Option Int :=
  match cs with
  | '-' :: _ => none
  | _ => (readInt? cs).filter fun n => n ≤ bound

end RefData
