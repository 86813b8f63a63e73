import RefData.Number.Notation
import RefData.Text.Blank
set_option autoImplicit false

namespace RefData

structure Date where
  year : Int
  month : Nat
  day : Nat
  deriving DecidableEq

namespace Date

def isLeapYear (y : Int) : Bool := y % 4 == 0 && (y % 100 != 0 || y % 400 == 0)

def daysInMonth (y : Int) (m : Nat) : Nat :=
  if m = 2 then (if isLeapYear y then 29 else 28)
  else if m = 4 ∨ m = 6 ∨ m = 9 ∨ m = 11 then 30
  else 31

def minYear : Int := -262143
def maxYear : Int := 262142

def isValid (d : Date) : Bool :=
  minYear ≤ d.year && d.year ≤ maxYear && 1 ≤ d.month && d.month ≤ 12
    && 1 ≤ d.day && d.day ≤ daysInMonth d.year d.month

-- The months are counted from March on, so that the leap day ends the year.

def toDays (d : Date) : Int :=
  let y := if d.month ≤ 2 then d.year - 1 else d.year
  let era := Int.fdiv y 400
  let yearOfEra := y - era * 400
  let shifted : Int := if d.month ≤ 2 then (d.month : Int) + 9 else (d.month : Int) - 3
  let dayOfYear := (153 * shifted + 2) / 5 + d.day - 1
  let dayOfEra := yearOfEra * 365 + yearOfEra / 4 - yearOfEra / 100 + dayOfYear
  era * 146097 + dayOfEra - 719468

def ofDays (days : Int) : Date :=
  let z := days + 719468
  let era := Int.fdiv z 146097
  let dayOfEra := z - era * 146097
  let yearOfEra := (dayOfEra - dayOfEra / 1460 + dayOfEra / 36524 - dayOfEra / 146096) / 365
  let dayOfYear := dayOfEra - (365 * yearOfEra + yearOfEra / 4 - yearOfEra / 100)
  let shifted := (5 * dayOfYear + 2) / 153
  let month := if shifted < 10 then shifted + 3 else shifted - 9
  let year := yearOfEra + era * 400 + (if month ≤ 2 then 1 else 0)
  { year := year, month := month.toNat, day := (dayOfYear - (153 * shifted + 2) / 5 + 1).toNat }

def padded (width n : Nat) : List Char :=
  let digits := natDigits n
  List.replicate (width - digits.length) '0' ++ digits

/-- Four digits; a year that has another number of them, or is below zero, carries a sign. -/
def yearText (y : Int) : List Char :=
  if 0 ≤ y ∧ y ≤ 9999 then padded 4 y.toNat
  else (if y < 0 then '-' else '+') :: padded 4 y.natAbs

def isoText (d : Date) : String :=
  String.ofList (yearText d.year ++ '-' :: padded 2 d.month ++ '-' :: padded 2 d.day)

def shownText (d : Date) : String :=
  String.ofList (padded 2 d.day ++ '.' :: padded 2 d.month ++ '.' :: yearText d.year)

def readField? (width : Nat) (cs : List Char) : Option (Nat × List Char) :=
  let cs := cs.dropWhile Text.isBlank
  let digits := (cs.take width).takeWhile isDigit
  if digits.isEmpty then none else some (digitsValue digits, cs.drop digits.length)

/-- A year of up to four digits, or of any number of them after a sign. -/
def readYear? (cs : List Char) : Option (Int × List Char) :=
  match cs.dropWhile Text.isBlank with
  | '-' :: rest => (signedDigits? rest).map fun (n, rest) => (-(n : Int), rest)
  | '+' :: rest => (signedDigits? rest).map fun (n, rest) => ((n : Int), rest)
  | rest => (readField? 4 rest).map fun (n, rest) => ((n : Int), rest)
where
  signedDigits? (cs : List Char) : Option (Nat × List Char) :=
    let digits := cs.takeWhile isDigit
    if digits.isEmpty then none else some (digitsValue digits, cs.dropWhile isDigit)

def dash? : List Char → Option (List Char)
  | '-' :: rest => some rest
  | _ => none

def readIso? (cs : List Char) : Option Date := do
  let (year, rest) ← readYear? cs
  let rest ← dash? rest
  let (month, rest) ← readField? 2 rest
  let rest ← dash? rest
  let (day, rest) ← readField? 2 rest
  let date : Date := ⟨year, month, day⟩
  if rest.isEmpty && date.isValid then some date else none

def parse? (text : String) : Option Date :=
  readIso? ((Text.trimChars text.toList).takeWhile fun c => c != 'T' && c != ' ')

def millisPerDay : Int := 86400000

def toMillis (d : Date) : Int := d.toDays * millisPerDay

def ofMillis? (millis : Int) : Option Date :=
  let date := ofDays (Int.fdiv millis millisPerDay)
  if date.isValid then some date else none

end Date

namespace Period

def noDate : String := "—"

def shownDate? (text : Option String) : Option String := (text.bind Date.parse?).map Date.shownText

def label (start finish : Option String) : String :=
  match shownDate? start, shownDate? finish with
  | some s, some f => s ++ " — " ++ f
  | some s, none => s ++ " —"
  | none, some f => "— " ++ f
  | none, none => noDate

end Period

end RefData
