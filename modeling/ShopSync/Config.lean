import ShopSync.Catalog.Category
import ShopSync.Http.Request
import ShopSync.MarketplaceId
import ShopSync.Money
import ShopSync.Number.Decimal
import ShopSync.Number.Shortest
import ShopSync.Text.Visible

/-!
The configuration of a marketplace: credentials and settings, where they come from, and which of
them are valid.  Credentials may be missing; the marketplace then counts as unconfigured.
-/

namespace ShopSync

open Number (Binary64)

/-- Why a configuration was refused. -/
inductive ConfigError where
  | marketplaceMismatch (expected found : String)
  | missingField (field : String)
  | invalidValue (field value : String)
  | validation (cause : ValidationError)
deriving DecidableEq

/-- The wording of the error. -/
def ConfigError.message : ConfigError → String
  | marketplaceMismatch expected found =>
    s!"config for '{found}' cannot be applied to the '{expected}' adapter"
  | missingField field => s!"required setting '{field}' is missing or blank"
  | invalidValue field value => s!"setting '{field}' has invalid value '{value}'"
  | validation cause => cause.message

/-- Credentials and settings for one marketplace. -/
structure Config where
  marketplace : MarketplaceId
  enabled : Bool := true
  accessToken : String := ""
  apiKey : String := ""
  shopId : String := ""
  baseUrl : Option String := none
  currencyCode : String := "USD"
  /-- What updates of all marketplaces add to a catalog price, in percent. -/
  priceMarkupPercent : Binary64 := Binary64.zero
  /-- The budget of requests; nothing means no pacing. -/
  requestsPerSecond : Option UInt32 := none
  timeoutMs : UInt64 := Http.defaultTimeoutMs
  categoryMappings : List CategoryMapping := []
deriving DecidableEq

namespace Config

/-- Whether every credential is there. -/
def hasCredentials (config : Config) : Bool :=
  !Text.isBlankText config.accessToken && !Text.isBlankText config.apiKey
    && !Text.isBlankText config.shopId

/-! ### Validity -/

/-- The lowest markup that is too low, in percent. -/
def markupFloor : Binary64 := Binary64.ofInt (-100)

/-- Whether the markup is a finite number that leaves something of the price. -/
def hasValidMarkup (config : Config) : Bool :=
  config.priceMarkupPercent.isFinite && markupFloor.lt config.priceMarkupPercent

/-- Checks the settings, in the order currency, markup, time limit, budget. -/
def validate (config : Config) : Except ConfigError Unit := do
  let _ ← (parseCurrency config.currencyCode).mapError ConfigError.validation
  if !config.hasValidMarkup then
    throw (.invalidValue "price_markup_percent"
      (String.ofList (Number.plainStyle.text config.priceMarkupPercent)))
  if config.timeoutMs = 0 then throw (.invalidValue "timeout_ms" "0")
  if config.requestsPerSecond = some 0 then throw (.invalidValue "requests_per_second" "0")

/-- A price with the markup added; a markup that is not above zero changes nothing. -/
def applyMarkup (config : Config) (price : Binary64) : Binary64 :=
  if Binary64.zero.lt config.priceMarkupPercent then
    price * (Binary64.ofNat 1 + config.priceMarkupPercent / Binary64.ofNat 100)
  else price

/-! ### From the environment -/

/-- The variable of a setting. -/
def settingVariable (envTag name : String) : String := s!"MARKETSYNC_{envTag}_{name}"

/-- The variable of a credential that counts when the one of the setting is not set. -/
def fallbackVariable (envTag name : String) : String := s!"{envTag}_{name}"

/-- A credential: the first of its two variables that is set counts, without the blanks around its
value.  A blank value is none. -/
def credential (lookup : String → Option String) (envTag name : String) : String :=
  Text.trim (((lookup (settingVariable envTag name)).orElse fun _ =>
    lookup (fallbackVariable envTag name)).getD "")

/-- The configuration that the environment gives.  Missing credentials are left blank; numbers that
cannot be read and settings that are not valid are refused. -/
def ofEnvironment (marketplace : MarketplaceId) (lookup : String → Option String) :
    Except ConfigError Config := do
  let envTag := marketplace.envTag
  let setting name := lookup (settingVariable envTag name)
  let markup ← match setting "PRICE_MARKUP" with
    | none => pure Binary64.zero
    | some value =>
      match Number.decimal? (Text.trim value) with
      | some markup => pure markup
      | none => throw (.invalidValue "price_markup_percent" value)
  let budget ← match setting "RPS" with
    | none => pure none
    | some value =>
      match Number.uint32? (Text.trim value) with
      | some budget => pure (some budget)
      | none => throw (.invalidValue "requests_per_second" value)
  let config : Config :=
    { marketplace
      accessToken := credential lookup envTag "ACCESS_TOKEN"
      apiKey := credential lookup envTag "API_KEY"
      shopId := credential lookup envTag "SHOP_ID"
      baseUrl := setting "BASE_URL"
      currencyCode := (setting "CURRENCY").getD "USD"
      priceMarkupPercent := markup
      requestsPerSecond := budget }
  config.validate
  pure config

/-- The variables that the configuration of a marketplace can depend on. -/
def variableNames (marketplace : MarketplaceId) : List String :=
  let credentials := ["ACCESS_TOKEN", "API_KEY", "SHOP_ID"]
  let settings := ["BASE_URL", "CURRENCY", "PRICE_MARKUP", "RPS"]
  (credentials ++ settings).map (settingVariable marketplace.envTag)
    ++ credentials.map (fallbackVariable marketplace.envTag)

/-! ### JSON and diagnostics -/

/-- The configuration as JSON. -/
def toJson (config : Config) : Json.Value :=
  .object
    ([("marketplace", config.marketplace.toJson), ("enabled", .bool config.enabled),
        ("access_token", .string config.accessToken), ("api_key", .string config.apiKey),
        ("shop_id", .string config.shopId)]
      ++ Json.Value.optionalMember "base_url" .string config.baseUrl
      ++ [("currency_code", .string config.currencyCode),
        ("price_markup_percent", .ofReal config.priceMarkupPercent)]
      ++ Json.Value.optionalMember "requests_per_second" (fun n => .ofNat n.toNat)
        config.requestsPerSecond
      ++ [("timeout_ms", .ofNat config.timeoutMs.toNat),
        ("category_mappings", .ofList CategoryMapping.toJson config.categoryMappings)])

/-- Reads a configuration from JSON.  Its settings are not checked here. -/
def decoder : Json.Decoder Config :=
  .record ["marketplace", "enabled", "access_token", "api_key", "shop_id", "base_url",
      "currency_code", "price_markup_percent", "requests_per_second", "timeout_ms",
      "category_mappings"] fun fs => do
    let marketplace ← fs.required "marketplace" MarketplaceId.decoder
    let enabled ← fs.withDefault "enabled" true .bool
    let accessToken ← fs.withDefault "access_token" "" .text
    let apiKey ← fs.withDefault "api_key" "" .text
    let shopId ← fs.withDefault "shop_id" "" .text
    let baseUrl ← fs.optional "base_url" .text
    let currencyCode ← fs.withDefault "currency_code" "USD" .text
    let priceMarkupPercent ← fs.withDefault "price_markup_percent" Binary64.zero .real
    let requestsPerSecond ← fs.optional "requests_per_second" .uint32
    let timeoutMs ← fs.withDefault "timeout_ms" Http.defaultTimeoutMs .uint64
    let categoryMappings ← fs.withDefault "category_mappings" [] (.list CategoryMapping.decoder)
    pure { marketplace, enabled, accessToken, apiKey, shopId, baseUrl, currencyCode,
           priceMarkupPercent, requestsPerSecond, timeoutMs, categoryMappings }

/-- What may be shown of a secret: whether it is there. -/
def describeSecret (secret : String) : String :=
  if secret = "" then "<unset>" else "<redacted>"

/-- The configuration in words, without its secrets. -/
def describe (config : Config) : String :=
  let marketplace := match config.marketplace with
    | .etsy => "Etsy"
  let baseUrl := match config.baseUrl with
    | none => "None"
    | some url => s!"Some({Text.quoted url})"
  let budget := match config.requestsPerSecond with
    | none => "None"
    | some n => s!"Some({n.toNat})"
  let parts :=
    ["marketplace: " ++ marketplace, "enabled: " ++ (if config.enabled then "true" else "false"),
      "access_token: " ++ Text.quoted (describeSecret config.accessToken),
      "api_key: " ++ Text.quoted (describeSecret config.apiKey),
      "shop_id: " ++ Text.quoted config.shopId, "base_url: " ++ baseUrl,
      "currency_code: " ++ Text.quoted config.currencyCode,
      "price_markup_percent: " ++
        String.ofList (Number.debugStyle.text config.priceMarkupPercent),
      "requests_per_second: " ++ budget, "timeout_ms: " ++ toString config.timeoutMs.toNat,
      "category_mappings: " ++ toString config.categoryMappings.length]
  "MarketplaceConfig \x7b " ++ ", ".intercalate parts ++ " \x7d"

end Config

end ShopSync
