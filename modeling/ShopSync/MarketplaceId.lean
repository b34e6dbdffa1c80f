import ShopSync.Json.Decoder
import ShopSync.Text.Truncate
import ShopSync.Validation

/-!
The marketplaces that are known.  Each has a tag, which is how commands, configurations and stored
results refer to it, and a part in the names of its environment variables.
-/

namespace ShopSync

/-- A marketplace. -/
inductive MarketplaceId where
  | etsy
deriving DecidableEq, Repr

namespace MarketplaceId

/-- Every marketplace, in the order of their tags. -/
def all : List MarketplaceId := [etsy]

/-- The tag of a marketplace. -/
def tag : MarketplaceId → String
  | etsy => "etsy"

/-- How the marketplace is called in environment variables. -/
def envTag : MarketplaceId → String
  | etsy => "ETSY"

/-- The marketplace with a tag. -/
def ofTag? (s : String) : Option MarketplaceId :=
  if s = "etsy" then some etsy else none

/-- The marketplace a user names: blanks around the tag and the case of its letters do not count. -/
def parse (input : String) : Except ValidationError MarketplaceId :=
  let name := (Text.trim input).toLower
  match ofTag? name with
  | some id => .ok id
  | none => .error (.invalidMarketplace name)

/-- The marketplace as JSON: its tag. -/
def toJson (id : MarketplaceId) : Json.Value := .string id.tag

/-- Reads a marketplace from JSON. -/
def decoder : Json.Decoder MarketplaceId := Json.Decoder.choice ofTag?

end MarketplaceId

end ShopSync
