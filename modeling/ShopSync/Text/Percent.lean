/-!
Percent encoding of a text as one segment of an address.

Every byte of the UTF-8 form outside the unreserved set (letters, digits, `-`, `_`, `.`, `~`) is
written as `%` and two upper-case hexadecimal digits, so an encoded segment holds none of the
characters that divide an address.
-/

namespace ShopSync.Text.Percent

/-- Whether the byte stands for itself in an address. -/
def isUnreserved (b : UInt8) : Bool :=
  let n := b.toNat
  (0x30 ≤ n && n ≤ 0x39) || (0x41 ≤ n && n ≤ 0x5a) || (0x61 ≤ n && n ≤ 0x7a) ||
    n == 0x2d || n == 0x5f || n == 0x2e || n == 0x7e

/-- An upper-case hexadecimal digit; only values below sixteen are asked for. -/
def hexDigit (n : Nat) : Char :=
  if n < 10 then Char.ofNat (0x30 + n) else Char.ofNat (0x37 + n)

/-- The characters one byte is written with. -/
def encodeByte (b : UInt8) : List Char :=
  if isUnreserved b then [Char.ofNat b.toNat]
  else ['%', hexDigit (b.toNat / 16), hexDigit (b.toNat % 16)]

/-- The characters a sequence of bytes is written with. -/
def encodeBytes (bs : List UInt8) : List Char :=
  bs.flatMap encodeByte

/-- The text as one segment of an address. -/
def encode (s : String) : String :=
  String.ofList (encodeBytes s.toUTF8.toList)

/-! ### Reading a segment back -/

/-- The value of a hexadecimal digit of either case. -/
def hexValue? (c : Char) : Option Nat :=
  if '0' ≤ c ∧ c ≤ '9' then some (c.toNat - 0x30)
  else if 'A' ≤ c ∧ c ≤ 'F' then some (c.toNat - 0x37)
  else if 'a' ≤ c ∧ c ≤ 'f' then some (c.toNat - 0x57)
  else none

/-- The bytes that an encoded segment stands for, when it is well formed. -/
def decodeBytes? : List Char → Option (List UInt8)
  | [] => some []
  | '%' :: a :: b :: rest => do
    let high ← hexValue? a
    let low ← hexValue? b
    let bytes ← decodeBytes? rest
    pure (UInt8.ofNat (16 * high + low) :: bytes)
  | c :: rest =>
    if c.toNat < 0x80 ∧ isUnreserved (UInt8.ofNat c.toNat) = true then
      (decodeBytes? rest).map (UInt8.ofNat c.toNat :: ·)
    else none

end ShopSync.Text.Percent
