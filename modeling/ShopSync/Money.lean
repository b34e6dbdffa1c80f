import ShopSync.Json.Decoder
import ShopSync.Number.Binary64
import ShopSync.Text.Truncate
import ShopSync.Validation

/-!
Amounts of money in the minor units of a currency.

A catalog price is a plain decimal; it becomes an amount over a divisor only when it is sent.  The
amount is the price in hundredths, rounded to the nearest one and away from zero on a tie.
-/

namespace ShopSync

open Number (Binary64)

/-- An amount: `amount / divisor` of a currency. -/
structure Money where
  amount : Int
  divisor : Int
  currencyCode : String
deriving DecidableEq

/-- The code of a currency: three ASCII letters in upper case.  Blanks around it and the case of
its letters do not count. -/
def parseCurrency (input : String) : Except ValidationError String :=
  let cs := (Text.strip input.toList).map Char.toUpper
  if cs.length = 3 ∧ cs.all Char.isAlpha = true then .ok (String.ofList cs)
  else .error (.invalidCurrency input)

/-- A value that has to be finite and not below zero. -/
def requireNonNegative (field : String) (x : Binary64) : Except ValidationError Unit :=
  if !x.isFinite then .error (.nonFiniteValue field)
  else if x.lt Binary64.zero then .error (.negativeValue field)
  else .ok ()

namespace Money

/-- Minor units in one unit. -/
def minorUnits : Nat := 100

/-- The amount of a decimal price. -/
def ofDecimal (price : Binary64) (currency : String) : Except ValidationError Money := do
  requireNonNegative "price" price
  let code ← parseCurrency currency
  pure
    { amount := (price * Binary64.ofNat minorUnits).roundInt64
      divisor := minorUnits
      currencyCode := code }

/-- The decimal value of an amount over a divisor; zero when the divisor is. -/
def decimalOf (amount divisor : Int) : Binary64 :=
  if divisor = 0 then Binary64.zero else Binary64.ofInt amount / Binary64.ofInt divisor

/-- The decimal value of an amount. -/
def toDecimal (money : Money) : Binary64 :=
  decimalOf money.amount money.divisor

/-- The amount as JSON. -/
def toJson (money : Money) : Json.Value :=
  .object
    [("amount", .ofInt money.amount), ("divisor", .ofInt money.divisor),
      ("currency_code", .string money.currencyCode)]

/-- Reads an amount from JSON. -/
def decoder : Json.Decoder Money :=
  .record ["amount", "divisor", "currency_code"] fun fs => do
    let amount ← fs.required "amount" .int64
    let divisor ← fs.required "divisor" .int64
    let currencyCode ← fs.required "currency_code" .text
    pure { amount, divisor, currencyCode }

end Money

end ShopSync
