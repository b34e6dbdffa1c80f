import ShopSync.Number.Digits

/-!
Binary floating-point numbers of 64 bits, in exact integer arithmetic.

Every finite number is a whole multiple of the smallest positive one, `2 ^ (-1074)`.  The finite
numbers of one sign are counted upwards from zero by an *index*, and `units` gives the multiple
that an index stands for.  `indexOf` rounds an exact quotient to the nearest index, a tie to the
even one; all arithmetic is exact arithmetic on units followed by that rounding.  There is one
"not a number", since no operation here can tell two of them apart.
-/

namespace ShopSync.Number

/-- How many numbers follow one another with the same spacing: `2 ^ 52`. -/
def binade : Nat := 4503599627370496

/-- The first index past the finite numbers. -/
def indexLimit : Nat := 2047 * binade

/-- A floating-point number of 64 bits. -/
inductive Binary64 where
  | nan
  | infinite (negative : Bool)
  | finite (negative : Bool) (index : Fin indexLimit)
deriving DecidableEq

namespace Binary64

/-! ### Indices and units -/

/-- How many times the spacing has doubled below the number at an index. -/
def doublings (index : Nat) : Nat :=
  index / binade - 1

/-- The significand of the number at an index. -/
def significand (index : Nat) : Nat :=
  index - doublings index * binade

/-- The number at an index, counted in the smallest positive number. -/
def units (index : Nat) : Nat :=
  significand index * Nat.pow 2 (doublings index)

/-- One in units. -/
def unitsPerOne : Nat := Nat.pow 2 1074

/-- The whole number nearest to a quotient, the even one of two. -/
def roundToEven (num den : Nat) : Nat :=
  let q := num / den
  let r := num % den
  if 2 * r < den then q
  else if den < 2 * r then q + 1
  else q + q % 2

/-- The index nearest to `num / den` units; a tie goes to the even index. -/
def indexOf (num den : Nat) : Nat :=
  let k := (num / den).log2 - 52
  k * binade + roundToEven num (den * Nat.pow 2 k)

/-- The number nearest to `num / den` units, infinite when that lies past the finite ones. -/
def ofUnits (negative : Bool) (num den : Nat) : Binary64 :=
  if h : indexOf num den < indexLimit then .finite negative ⟨indexOf num den, h⟩
  else .infinite negative

/-! ### Constants and conversions -/

/-- Positive zero. -/
def zero : Binary64 := ofUnits false 0 1

/-- The number nearest to a natural number. -/
def ofNat (n : Nat) : Binary64 := ofUnits false (n * unitsPerOne) 1

/-- The number nearest to a whole number. -/
def ofInt (n : Int) : Binary64 := ofUnits (decide (n < 0)) (n.natAbs * unitsPerOne) 1

/-- The signed units of a finite number, zero for any other. -/
def signedUnits : Binary64 → Int
  | .finite true i => -(units i.val : Int)
  | .finite false i => (units i.val : Int)
  | _ => 0

/-- Neither infinite nor "not a number". -/
def isFinite : Binary64 → Bool
  | .finite _ _ => true
  | _ => false

/-- The number with the other sign. -/
def neg : Binary64 → Binary64
  | .nan => .nan
  | .infinite s => .infinite (!s)
  | .finite s i => .finite (!s) i

/-- The number with the given sign. -/
def withSign (negative : Bool) : Binary64 → Binary64
  | .nan => .nan
  | .infinite _ => .infinite negative
  | .finite _ i => .finite negative i

/-! ### Order -/

/-- Strictly below; false when either is "not a number". -/
def lt : Binary64 → Binary64 → Bool
  | .nan, _ => false
  | _, .nan => false
  | .infinite s, .infinite t => s && !t
  | .infinite s, .finite _ _ => s
  | .finite _ _, .infinite t => !t
  | x@(.finite _ _), y@(.finite _ _) => decide (x.signedUnits < y.signedUnits)

/-- Whether the number is zero, of either sign. -/
def isZero : Binary64 → Bool
  | .finite _ i => i.val == 0
  | _ => false

/-! ### Arithmetic -/

/-- The rounded sum; an exact zero is negative only as the sum of two negative zeros. -/
def add : Binary64 → Binary64 → Binary64
  | .nan, _ => .nan
  | _, .nan => .nan
  | .infinite s, .infinite t => if s == t then .infinite s else .nan
  | .infinite s, .finite _ _ => .infinite s
  | .finite _ _, .infinite t => .infinite t
  | x@(.finite s _), y@(.finite t _) =>
    let sum := x.signedUnits + y.signedUnits
    if sum = 0 then ofUnits (s && t) 0 1
    else ofUnits (decide (sum < 0)) sum.natAbs 1

/-- The rounded product. -/
def mul : Binary64 → Binary64 → Binary64
  | .nan, _ => .nan
  | _, .nan => .nan
  | .infinite s, .infinite t => .infinite (s != t)
  | .infinite s, .finite t j => if j.val = 0 then .nan else .infinite (s != t)
  | .finite s i, .infinite t => if i.val = 0 then .nan else .infinite (s != t)
  | .finite s i, .finite t j => ofUnits (s != t) (units i.val * units j.val) unitsPerOne

/-- The rounded quotient; a zero divisor gives an infinite result or, for zero by zero, none. -/
def div : Binary64 → Binary64 → Binary64
  | .nan, _ => .nan
  | _, .nan => .nan
  | .infinite _, .infinite _ => .nan
  | .infinite s, .finite t _ => .infinite (s != t)
  | .finite s _, .infinite t => ofUnits (s != t) 0 1
  | .finite s i, .finite t j =>
    if j.val = 0 then
      if i.val = 0 then .nan else .infinite (s != t)
    else ofUnits (s != t) (units i.val * unitsPerOne) (units j.val)

instance : Add Binary64 := ⟨add⟩
instance : Mul Binary64 := ⟨mul⟩
instance : Div Binary64 := ⟨div⟩
instance : Neg Binary64 := ⟨neg⟩

/-! ### Whole numbers near a number -/

/-- The whole number nearest to a quotient of natural numbers, away from zero on a tie. -/
def roundAway (num den : Nat) : Nat :=
  (2 * num + den) / (2 * den)

/-- The whole number with the given sign and size, kept to the signed range of 64 bits. -/
def clampInt64 (negative : Bool) (size : Nat) : Int :=
  if negative then max (-int64Limit) (-(size : Int)) else min (int64Limit - 1) (size : Int)

/-- The nearest whole number, away from zero on a tie, kept to the signed range of 64 bits;
zero for "not a number". -/
def roundInt64 : Binary64 → Int
  | .nan => 0
  | .infinite s => clampInt64 s UInt64.size
  | .finite s i => clampInt64 s (roundAway (units i.val) unitsPerOne)

/-- The whole part, kept to the signed range of 64 bits; zero for "not a number". -/
def truncInt64 : Binary64 → Int
  | .nan => 0
  | .infinite s => clampInt64 s UInt64.size
  | .finite s i => clampInt64 s (units i.val / unitsPerOne)

/-! ### Decimal numerals -/

/-- The number nearest to `digits * 10 ^ exponent`.  Exponents that are out of every range are
answered without raising ten to them. -/
def ofDecimal (negative : Bool) (digits : Nat) (exponent : Int) : Binary64 :=
  if digits = 0 then ofUnits negative 0 1
  else if 310 ≤ exponent then .infinite negative
  else if exponent + (digits.log2 : Int) < -1100 then ofUnits negative 0 1
  else if 0 ≤ exponent then ofUnits negative (digits * Nat.pow 10 exponent.toNat * unitsPerOne) 1
  else ofUnits negative (digits * unitsPerOne) (Nat.pow 10 (-exponent).toNat)

end Binary64

end ShopSync.Number
