import ShopSync.Number.Binary64
import ShopSync.Number.Digits

/-!
The shortest decimal numeral of a floating-point number.

The numerals that read back to a number are those inside the interval of exact values that round
to it.  `shortest` takes the coarsest decimal grid with a point in the interval, and on it the
point nearest to the number.  A `FloatStyle` says which of two equally near points is taken and how
the digits are laid out: where positional notation ends and how an exponent is written.
-/

namespace ShopSync.Number

/-- Which of two equally near whole numbers is taken. -/
inductive Tie where
  | toEven
  | upward
deriving DecidableEq, Repr

/-- One of a whole number and the next, which are equally near. -/
def Tie.pick (tie : Tie) (below : Nat) : Nat :=
  match tie with
  | .toEven => below + below % 2
  | .upward => below + 1

/-! ### The interval of a number -/

/-- The exact values that round to one positive number, in quarters of the smallest number. -/
structure Interval where
  centre : Nat
  low : Nat
  high : Nat
  /-- Whether the two ends round to the number as well. -/
  closed : Bool

/-- The interval of the number at a positive index.  Below a power of two the spacing is half of
what it is above. -/
def intervalAt (index : Nat) : Interval :=
  let m := Binary64.significand index
  let step := Nat.pow 2 (Binary64.doublings index)
  let centre := 4 * (m * step)
  let below := if m = binade ∧ 1 < step then step else 2 * step
  { centre, low := centre - below, high := centre + 2 * step, closed := m % 2 == 0 }

namespace Interval

/-- Quarters of the smallest number in one. -/
def perOne : Nat := 4 * Binary64.unitsPerOne

/-- The two factors that compare a whole multiple of `10 ^ exponent` with quarters: of the
multiple, and of the quarters. -/
def scales (exponent : Int) : Nat × Nat :=
  if 0 ≤ exponent then (perOne * Nat.pow 10 exponent.toNat, 1)
  else (perOne, Nat.pow 10 (-exponent).toNat)

/-- Whether `multiple * 10 ^ exponent` lies in the interval. -/
def contains (interval : Interval) (multiple : Nat) (exponent : Int) : Bool :=
  let (a, b) := scales exponent
  if interval.closed then
    decide (interval.low * b ≤ multiple * a) && decide (multiple * a ≤ interval.high * b)
  else
    decide (interval.low * b < multiple * a) && decide (multiple * a < interval.high * b)

/-- The multiple of `10 ^ exponent` in the interval that is nearest to its centre; only the two
neighbours of the centre have to be looked at. -/
def nearest? (interval : Interval) (tie : Tie) (exponent : Int) : Option Nat :=
  let (a, b) := scales exponent
  let below := interval.centre * b / a
  let above := below + 1
  match interval.contains below exponent, interval.contains above exponent with
  | false, false => none
  | true, false => some below
  | false, true => some above
  | true, true =>
    let toBelow := interval.centre * b - below * a
    let toAbove := above * a - interval.centre * b
    if toBelow < toAbove then some below
    else if toAbove < toBelow then some above
    else some (tie.pick below)

end Interval

/-! ### The digits -/

/-- A numeral: its digits as a number, and the power of ten they are counted in. -/
structure Numeral where
  digits : Nat
  exponent : Int
deriving DecidableEq, Repr

/-- A power of ten above the number at a positive index, by at most a factor of a thousand. -/
def topExponent (index : Nat) : Int :=
  ((Binary64.units index).log2 - 1074 : Int) * 30103 / 100000 + 2

/-- The shortest numeral of the number at a positive index. -/
def shortest (tie : Tie) (index : Nat) : Numeral :=
  let interval := intervalAt index
  let top := topExponent index
  let found := (List.range 24).findSome? fun (i : Nat) =>
    let exponent := top - i
    (interval.nearest? tie exponent).map fun digits => { digits, exponent : Numeral }
  found.getD { digits := 0, exponent := 0 }

/-! ### Layout -/

/-- How a number is written. -/
structure FloatStyle where
  /-- Which of two equally near numerals is written. -/
  tie : Tie
  /-- The decimal exponents that are written positionally. -/
  positional : Int → Bool
  /-- Whether a whole number in positional notation ends in `.0`. -/
  pointZero : Bool
  /-- Whether a positive exponent has its sign. -/
  plusSign : Bool
  nan : String
  infinity : String

/-- Digits, a point and the fraction, for a numeral whose first digit has the given exponent. -/
def positionalText (pointZero : Bool) (ds : List Char) (lead : Int) : List Char :=
  if lead < 0 then
    ['0', '.'] ++ List.replicate ((-lead).toNat - 1) '0' ++ ds
  else
    let whole := lead.toNat + 1
    if ds.length ≤ whole then
      ds ++ List.replicate (whole - ds.length) '0' ++ (if pointZero then ['.', '0'] else [])
    else ds.take whole ++ '.' :: ds.drop whole

/-- One digit, the fraction and the exponent. -/
def exponentText (plusSign : Bool) (ds : List Char) (lead : Int) : List Char :=
  let fraction := if ds.length ≤ 1 then [] else '.' :: ds.drop 1
  let sign := if plusSign && decide (0 ≤ lead) then ['+'] else []
  ds.take 1 ++ fraction ++ 'e' :: sign ++ integerText lead

/-- The magnitude of a finite number in a style. -/
def FloatStyle.magnitude (style : FloatStyle) (index : Nat) : List Char :=
  if index = 0 then (if style.pointZero then ['0', '.', '0'] else ['0'])
  else
    let numeral := shortest style.tie index
    let ds := ShopSync.Number.digits numeral.digits
    let lead := numeral.exponent + ds.length - 1
    if style.positional lead then positionalText style.pointZero ds lead
    else exponentText style.plusSign ds lead

/-- A number in a style; negative zero keeps its sign. -/
def FloatStyle.text (style : FloatStyle) : Binary64 → List Char
  | .nan => style.nan.toList
  | .infinite negative => (if negative then ['-'] else []) ++ style.infinity.toList
  | .finite negative i => (if negative then ['-'] else []) ++ style.magnitude i.val

/-- Every number positionally, whole numbers without a point. -/
def plainStyle : FloatStyle where
  tie := .upward
  positional _ := true
  pointZero := false
  plusSign := false
  nan := "NaN"
  infinity := "inf"

/-- Sizes from `1e-4` up to `1e16` positionally, whole numbers with `.0`. -/
def debugStyle : FloatStyle where
  tie := .upward
  positional lead := decide (-5 < lead) && decide (lead < 16)
  pointZero := true
  plusSign := false
  nan := "NaN"
  infinity := "inf"

end ShopSync.Number
