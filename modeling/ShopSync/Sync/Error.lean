import ShopSync.Config
import ShopSync.Market.Error
import ShopSync.Sync.Store

/-!
What can go wrong with an operation of the sync service: the error of a marketplace, a value, a
configuration or the store.
-/

namespace ShopSync

/-- Why an operation of the service failed. -/
inductive SyncError where
  | market (cause : MarketError)
  | validation (cause : ValidationError)
  | config (cause : ConfigError)
  | store (cause : StoreError)
deriving DecidableEq

namespace SyncError

/-- The code of the kind of error. -/
def code : SyncError → String
  | market cause => cause.code
  | validation _ => "validation_error"
  | config _ => "config_error"
  | store _ => "store_error"

/-- The wording of the error. -/
def message : SyncError → String
  | market cause => cause.text
  | validation cause => cause.message
  | config cause => cause.message
  | store cause => cause.message

/-- The error of a marketplace, where it is one. -/
def market? : SyncError → Option MarketError
  | market cause => some cause
  | _ => none

end SyncError

end ShopSync
