import ShopSync.Number.Binary64
import ShopSync.Number.Digits

/-!
Reading a floating-point number from a decimal text: an optional sign, then digits with at most
one point and at least one digit, then an optional exponent; or one of the words `inf`,
`infinity` and `nan` in any case.  The value is the exact one, rounded once.
-/

namespace ShopSync.Number

/-- The digits of a decimal text before the exponent. -/
structure Mantissa where
  whole : List Char
  fraction : List Char
  rest : List Char

/-- The leading digits, and the digits after a point when there is one. -/
def Mantissa.of (cs : List Char) : Mantissa :=
  let whole := cs.takeWhile isDigit
  match cs.dropWhile isDigit with
  | '.' :: rest =>
    { whole, fraction := rest.takeWhile isDigit, rest := rest.dropWhile isDigit }
  | rest => { whole, fraction := [], rest }

/-- The exponent that ends a decimal text; zero when there is none. -/
def exponent? : List Char → Option Int
  | [] => some 0
  | c :: rest => if c = 'e' ∨ c = 'E' then integer? rest else none

/-- The number an unsigned decimal text stands for. -/
def unsignedDecimal? (negative : Bool) (cs : List Char) : Option Binary64 :=
  let word := String.ofList (cs.map Char.toLower)
  if word = "inf" ∨ word = "infinity" then some (.infinite negative)
  else if word = "nan" then some .nan
  else do
    let m := Mantissa.of cs
    let e ← exponent? m.rest
    let ds := m.whole ++ m.fraction
    if ds.isEmpty then none
    else pure (Binary64.ofDecimal negative (ofDigits ds) (e - m.fraction.length))

/-- The number a decimal text stands for. -/
def decimal? (s : String) : Option Binary64 :=
  match s.toList with
  | '-' :: cs => unsignedDecimal? true cs
  | '+' :: cs => unsignedDecimal? false cs
  | cs => unsignedDecimal? false cs

end ShopSync.Number
