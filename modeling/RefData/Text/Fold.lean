import RefData.Text.Blank
import RefData.Text.Case
import RefData.Text.Canonical
import RefData.Text.ClassData
set_option autoImplicit false

namespace RefData.Text

def isMark (c : Char) : Bool := inRanges markRanges c.toNat

def isNumeric (c : Char) : Bool := inRanges numericRanges c.toNat

/-- What remains of a lower-case character for search: the letter without its accents. The letter
й keeps its breve, and ё counts as е. -/
def foldChar (c : Char) : List Char :=
  if c = 'ё' then ['е']
  else if c = 'й' then ['й']
  else (decomposeChar c).filter fun d => !isMark d

def foldChars (cs : List Char) : List Char := ((nfc cs).flatMap lowerChar).flatMap foldChar

def fold (s : String) : String := String.ofList (joinWith [' '] (words (foldChars s.toList)))

def foldedWords (s : String) : List (List Char) := words (foldChars s.toList)

end RefData.Text
