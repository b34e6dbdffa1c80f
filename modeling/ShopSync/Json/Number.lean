import ShopSync.Number.Shortest

/-!
Numbers of JSON.

A numeral without point and exponent is a whole number when it fits a signed or unsigned word of
64 bits; every other numeral is a floating-point number.  A floating-point numeral is read in two
steps: its digits are collected as long as they fit an unsigned word of 64 bits, and the word, as
a floating-point number, is then multiplied or divided by a power of ten.  A numeral past the
finite numbers has no value.
-/

namespace ShopSync.Json

open ShopSync.Number

/-- A number of JSON. -/
inductive Number where
  | integer (value : Int)
  | real (value : Binary64)
deriving DecidableEq

/-! ### Numerals -/

/-- The parts of a numeral. -/
structure Literal where
  negative : Bool
  whole : List Char
  /-- The digits after the point, when there is one. -/
  fraction : Option (List Char)
  exponent : Option Int

/-- The digits at the front, of which there has to be one, and what follows them. -/
def leadingDigits? (cs : List Char) : Option (List Char × List Char) :=
  let ds := cs.takeWhile isDigit
  if ds.isEmpty then none else some (ds, cs.dropWhile isDigit)

/-- The exponent that makes up the whole of the characters; nothing when they are empty. -/
def exponentPart? : List Char → Option (Option Int)
  | [] => some none
  | c :: rest =>
    if c = 'e' ∨ c = 'E' then (integer? rest).map some else none

/-- The parts of a numeral that makes up the whole of the characters.  A leading zero stands
alone, and a point has digits on both sides. -/
def Literal.parse? (cs : List Char) : Option Literal := do
  let (negative, cs) := match cs with
    | '-' :: rest => (true, rest)
    | rest => (false, rest)
  let (whole, rest) ← leadingDigits? cs
  if whole.head? = some '0' ∧ whole.length ≠ 1 then none
  else match rest with
    | '.' :: rest => do
      let (fraction, rest) ← leadingDigits? rest
      let exponent ← exponentPart? rest
      pure { negative, whole, fraction := some fraction, exponent }
    | rest => do
      let exponent ← exponentPart? rest
      pure { negative, whole, fraction := none, exponent }

/-! ### Values of numerals -/

/-- Appends digits to a number as long as it fits an unsigned word of 64 bits; gives the digits
that are left over. -/
def collect (n : Nat) : List Char → Nat × List Char
  | [] => (n, [])
  | c :: cs =>
    if 10 * n + digitValue c < UInt64.size then collect (10 * n + digitValue c) cs
    else (n, c :: cs)

/-- A power of ten as a floating-point number. -/
def powerOfTen (n : Nat) : Binary64 :=
  Binary64.ofNat (Nat.pow 10 n)

/-- Divides by a power of ten, in steps that are themselves finite powers. -/
def scaleDown (x : Binary64) (n : Nat) : Binary64 :=
  if n ≤ 308 then x / powerOfTen n
  else if x.isZero then x
  else scaleDown (x / powerOfTen 308) (n - 308)
termination_by n

/-- A word times a power of ten, unless that is past the finite numbers. -/
def scaled? (word : Nat) (exponent : Int) : Option Binary64 :=
  let x := Binary64.ofNat word
  if exponent < 0 then some (scaleDown x (-exponent).toNat)
  else if exponent ≤ 308 then
    let y := x * powerOfTen exponent.toNat
    if y.isFinite then some y else none
  else if x.isZero then some x
  else none

/-- The floating-point value of a numeral. -/
def Literal.real? (literal : Literal) : Option Binary64 :=
  let (word, dropped) := collect 0 literal.whole
  let fraction := literal.fraction.getD []
  let (word, left) := collect word fraction
  let exponent := (dropped.length : Int) - (fraction.length - left.length : Nat)
    + literal.exponent.getD 0
  (scaled? word exponent).map (Binary64.withSign literal.negative)

/-- The number a numeral stands for. -/
def Literal.number? (literal : Literal) : Option Number :=
  let n := ofDigits literal.whole
  if literal.fraction.isSome || literal.exponent.isSome then literal.real?.map .real
  else if !literal.negative && decide (n < UInt64.size) then some (.integer n)
  else if literal.negative && decide (0 < n) && decide ((n : Int) ≤ int64Limit) then
    some (.integer (-(n : Int)))
  else literal.real?.map .real

/-! ### Writing -/

/-- Decimal exponents from -5 to 15 are positional, whole numbers keep a point, and an exponent
has its sign. -/
def numeralStyle : FloatStyle where
  tie := .toEven
  positional lead := decide (-5 ≤ lead) && decide (lead < 16)
  pointZero := true
  plusSign := true
  nan := "null"
  infinity := "null"

/-- The numeral a number is written as. -/
def Number.write : Number → List Char
  | .integer n => integerText n
  | .real x => numeralStyle.text x

/-- The number as a floating-point number. -/
def Number.toReal : Number → Binary64
  | .integer n => Binary64.ofInt n
  | .real x => x

end ShopSync.Json
