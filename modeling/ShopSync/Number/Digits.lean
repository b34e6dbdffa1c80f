/-!
Whole numbers in decimal notation: the digits of a natural number, the value of a run of digits,
and the reading of signed and unsigned whole numbers.

The grammar is an optional sign and at least one ASCII digit; nothing may stand before, between
or after them.  `ofDigits` is the left inverse of writing.
-/

namespace ShopSync.Number

/-- Whether the character is an ASCII digit. -/
def isDigit (c : Char) : Bool :=
  '0' ≤ c && c ≤ '9'

/-- The value of an ASCII digit. -/
def digitValue (c : Char) : Nat :=
  c.toNat - 0x30

/-- The number that a run of digits spells. -/
def ofDigits (cs : List Char) : Nat :=
  cs.foldl (fun n c => 10 * n + digitValue c) 0

/-- The decimal digits of a number, without leading zeros. -/
def digits (n : Nat) : List Char :=
  Nat.toDigits 10 n

/-- The decimal digits of a number, with leading zeros up to a width. -/
def paddedDigits (width n : Nat) : List Char :=
  List.replicate (width - (digits n).length) '0' ++ digits n

/-- A whole number in decimal notation, with `-` in front of a negative one. -/
def integerText : Int → List Char
  | .ofNat n => digits n
  | .negSucc n => '-' :: digits (n + 1)

/-- The number a non-empty run of digits spells. -/
def natural? (cs : List Char) : Option Nat :=
  if !cs.isEmpty && cs.all isDigit then some (ofDigits cs) else none

/-- A whole number with an optional sign, of any size. -/
def integer? : List Char → Option Int
  | '-' :: cs => (natural? cs).map fun n => -(n : Int)
  | '+' :: cs => (natural? cs).map fun n => (n : Int)
  | cs => (natural? cs).map fun n => (n : Int)

/-- The first number past the signed whole numbers of 64 bits. -/
def int64Limit : Int := 9223372036854775808

/-- A signed whole number of 64 bits. -/
def int64? (s : String) : Option Int := do
  let n ← integer? s.toList
  if -int64Limit ≤ n ∧ n < int64Limit then pure n else none

/-- A whole number below a bound; a plus sign may lead, a minus sign may not. -/
def natBelow? (bound : Nat) (s : String) : Option Nat := do
  let n ← match s.toList with
    | '+' :: cs => natural? cs
    | cs => natural? cs
  if n < bound then pure n else none

/-- An unsigned whole number of 32 bits. -/
def uint32? (s : String) : Option UInt32 :=
  (natBelow? UInt32.size s).map UInt32.ofNat

/-- An unsigned whole number of 64 bits. -/
def uint64? (s : String) : Option UInt64 :=
  (natBelow? UInt64.size s).map UInt64.ofNat

end ShopSync.Number
