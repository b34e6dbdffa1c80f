/-!
What can be wrong with a single value: each cause, and its wording.
-/

namespace ShopSync

/-- Why a value was refused. -/
inductive ValidationError where
  | emptySku
  | skuTooLong (length max : Nat)
  | skuControlChar (index : Nat)
  | invalidMarketplace (value : String)
  | timestampNotUtc (value : String)
  | timestampOutOfRange (seconds : Int)
  | invalidCurrency (value : String)
  | nonFiniteValue (field : String)
  | negativeValue (field : String)
deriving DecidableEq, Repr

namespace ValidationError

/-- The wording of the error. -/
def message : ValidationError → String
  | emptySku => "sku cannot be empty"
  | skuTooLong length max => s!"sku length {length} exceeds max {max}"
  | skuControlChar index => s!"sku contains control character at index {index}"
  | invalidMarketplace value => s!"invalid marketplace '{value}', expected one of etsy"
  | timestampNotUtc value => s!"timestamp must be RFC3339 UTC (suffix Z): '{value}'"
  | timestampOutOfRange seconds => s!"epoch seconds {seconds} are out of range"
  | invalidCurrency value => s!"currency must be a 3-letter uppercase ISO code: '{value}'"
  | nonFiniteValue field => s!"field '{field}' must be finite"
  | negativeValue field => s!"field '{field}' must be non-negative"

end ValidationError

end ShopSync
