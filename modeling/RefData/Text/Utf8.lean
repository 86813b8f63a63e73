set_option autoImplicit false

namespace RefData.Text

def utf8Bytes (c : Char) : List Nat :=
  let n := c.toNat
  if n < 0x80 then [n]
  else if n < 0x800 then [0xC0 + n / 64, 0x80 + n % 64]
  else if n < 0x10000 then [0xE0 + n / 4096, 0x80 + n / 64 % 64, 0x80 + n % 64]
  else [0xF0 + n / 262144, 0x80 + n / 4096 % 64, 0x80 + n / 64 % 64, 0x80 + n % 64]

def isContinuation (b : Nat) : Bool := 0x80 ≤ b && b < 0xC0

def lowBits (b : Nat) : Nat := b - 0x80

def isScalar (n : Nat) : Bool := n < 0xD800 || 0xE000 ≤ n && n < 0x110000

/-- The characters of bytes in UTF-8; each must take the fewest bytes it can. -/
def utf8Decode? : List Nat → Option (List Char)
  | [] => some []
  | a :: rest =>
    if a < 0x80 then (utf8Decode? rest).map (Char.ofNat a :: ·)
    else if a < 0xC2 then none
    else match rest with
      | [] => none
      | b :: rest =>
        if !isContinuation b then none
        else if a < 0xE0 then
          (utf8Decode? rest).map (Char.ofNat ((a - 0xC0) * 64 + lowBits b) :: ·)
        else match rest with
          | [] => none
          | c :: rest =>
            if !isContinuation c then none
            else if a < 0xF0 then
              let n := (a - 0xE0) * 4096 + lowBits b * 64 + lowBits c
              if n < 0x800 || !isScalar n then none
              else (utf8Decode? rest).map (Char.ofNat n :: ·)
            else match rest with
              | [] => none
              | d :: rest =>
                let n := (a - 0xF0) * 262144 + lowBits b * 4096 + lowBits c * 64 + lowBits d
                if !isContinuation d || n < 0x10000 || !isScalar n then none
                else (utf8Decode? rest).map (Char.ofNat n :: ·)

end RefData.Text
