import RefData.Text.Canonical
import RefData.Text.Case
import RefData.Text.ClassData
import RefData.Url.DomainData
import RefData.Url.LabelData
import RefData.Url.Punycode
set_option autoImplicit false

namespace RefData.Url

def forbiddenInDomain (c : Char) : Bool :=
  c.toNat ≤ 0x20 || c.toNat == 0x7F || "%#/:<>?@[\\]^|".toList.contains c

def domainForm? (c : Char) : Option (List Char) :=
  let n := c.toNat
  if n < 0x80 then some [c.toLower]
  else if Text.inRanges ignoredRanges n then some []
  else if Text.inRanges disallowedRanges n then none
  else match expansions.find? (·.1 == n) with
    | some (_, form) => some (form.map Char.ofNat)
    | none =>
      match plainRuns.find? (·.covers n) with
      | some run => some [Char.ofNat ((n : Int) + run.shift).toNat]
      | none => some (Text.lowerChar c)

def domainForm (cs : List Char) : Option (List Char) := do
  let mapped := Text.nfc (← cs.mapM domainForm?).flatten
  if mapped.any forbiddenInDomain then none else some mapped

def isInForm (label : List Char) : Bool :=
  label.all (fun c => domainForm? c == some [c] && !forbiddenInDomain c && c != '.')
    && Text.nfc label == label

def nonJoiner : Char := Char.ofNat 0x200C

def joiner : Char := Char.ofNat 0x200D

def isVirama (c : Char) : Bool := Text.combiningClass c = 9

def meets (ranges : List (Nat × Nat)) : List Char → Bool
  | [] => false
  | c :: rest =>
    Text.inRanges ranges c.toNat
      || Text.inRanges transparentRanges c.toNat && meets ranges rest

/-- A joiner of either kind follows a virama; one that keeps letters apart may also stand between
two that would join. `before` holds the characters passed, the last one first. -/
def joinersInPlace (before : List Char) : List Char → Bool
  | [] => true
  | c :: rest =>
    let inPlace :=
      if c = joiner || c = nonJoiner then
        before.head?.any isVirama
          || c = nonJoiner && meets joinsLeftRanges before && meets joinsRightRanges rest
      else true
    inPlace && joinersInPlace (c :: before) rest

inductive Direction where
  | leftToRight
  | rightToLeft
  | arabicNumber
  | europeanNumber
  | spaceless
  | neutral
  deriving DecidableEq

def Direction.of (c : Char) : Direction :=
  let n := c.toNat
  if n < 0x80 then
    if c.isAlpha then .leftToRight else if c.isDigit then .europeanNumber else .neutral
  else if Text.inRanges rightToLeftRanges n then .rightToLeft
  else if Text.inRanges arabicNumberRanges n then .arabicNumber
  else if Text.inRanges europeanNumberRanges n then .europeanNumber
  else if Text.inRanges spacelessRanges n then .spaceless
  else if Text.inRanges neutralRanges n then .neutral
  else .leftToRight

def readsLeftward (label : List Char) : Bool :=
  label.any fun c => Direction.of c = .rightToLeft || Direction.of c = .arabicNumber

/-- A label whose characters keep their order among labels that are read from right to left: it
starts with a letter, holds letters of that direction only, ends in a letter or a number, and has
numbers of one kind only if it is read from right to left itself. -/
def keepsOrder (label : List Char) : Bool :=
  match label.map Direction.of with
  | [] => true
  | first :: rest =>
    match (rest.reverse.dropWhile (· = .spaceless)) with
    | [] => first = .leftToRight || first = .rightToLeft
    | last :: _ =>
      if first = .leftToRight then
        (last = .leftToRight || last = .europeanNumber)
          && rest.all fun d => d ≠ .rightToLeft && d ≠ .arabicNumber
      else first = .rightToLeft
        && (last = .rightToLeft || last = .europeanNumber || last = .arabicNumber)
        && rest.all (· ≠ .leftToRight)
        && !(rest.contains .europeanNumber && rest.contains .arabicNumber)

structure Label where
  name : List Char
  written : List Char

namespace Label

def marker : List Char := "xn--".toList

def maxEncoded : Nat := 2000
def maxName : Nat := 1000

def isAscii (cs : List Char) : Bool := cs.all fun c => c.toNat < 0x80

def isSound (name : List Char) : Bool :=
  !(name.head?.any fun c => Text.inRanges Text.markRanges c.toNat)
    && joinersInPlace [] name
    && (isAscii name || name.length ≤ maxName)

/-- The label that a text in the form of a domain stands for. A text with the marker must decode to
a label that is in form itself. -/
def ofText? (text : List Char) : Option Label :=
  if marker.isPrefixOf text then do
    let encoded := text.drop marker.length
    if !isAscii encoded || encoded.length > maxEncoded || encoded.getLast?.all (· == '-') then none
    else
      let name ← Punycode.decode? encoded
      if isInForm name && isSound name then some ⟨name, text⟩ else none
  else if !isSound text then none
  else if isAscii text then some ⟨text, text⟩
  else some ⟨text, marker ++ Punycode.encode text⟩

end Label

def asciiDomain? (cs : List Char) : Option (List Char) := do
  let labels ← (Text.pieces (· == '.') (← domainForm cs)).mapM Label.ofText?
  if labels.any (readsLeftward ·.name) && !labels.all (keepsOrder ·.name) then none
  else return Text.joinWith ['.'] (labels.map Label.written)

end RefData.Url
