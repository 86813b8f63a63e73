import RefData.Text.PrintData
set_option autoImplicit false

namespace RefData.Text

def hexLower (n : Nat) : List Char := Nat.toDigits 16 n

def isPrintable (c : Char) : Bool :=
  !inRanges unprintableRanges c.toNat && !inRanges extenderRanges c.toNat

def quoteChar (c : Char) : List Char :=
  match c with
  | '"' => ['\\', '"']
  | '\\' => ['\\', '\\']
  | '\t' => ['\\', 't']
  | '\n' => ['\\', 'n']
  | '\r' => ['\\', 'r']
  | '\x00' => ['\\', '0']
  | _ => if isPrintable c then [c] else '\\' :: 'u' :: '{' :: (hexLower c.toNat ++ ['}'])

def quote (s : String) : String := String.ofList ('"' :: (s.toList.flatMap quoteChar ++ ['"']))

end RefData.Text
