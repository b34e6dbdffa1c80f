import ShopSync.Etsy.Adapter

/-!
The adapters in use, at most one per marketplace.

A registry is built from given configurations, and from the environment for the marketplaces
without one.  A marketplace without any configuration is registered all the same; its adapter
counts as unconfigured.
-/

namespace ShopSync

/-- Adapters by marketplace. -/
structure Registry (α : Type) where
  adapter? : MarketplaceId → Option α

namespace Registry

variable {α : Type}

/-- No adapters. -/
def empty : Registry α := { adapter? := fun _ => none }

/-- The registry with an adapter in the place for its marketplace. -/
def register [Marketplace α] (registry : Registry α) (adapter : α) : Registry α where
  adapter? id := if id = Marketplace.id adapter then some adapter else registry.adapter? id

/-- The adapters, in the order of their tags. -/
def adapters (registry : Registry α) : List α :=
  MarketplaceId.all.filterMap registry.adapter?

/-- The marketplaces with an adapter, in the order of their tags. -/
def ids (registry : Registry α) : List MarketplaceId :=
  MarketplaceId.all.filter fun id => (registry.adapter? id).isSome

/-- The adapter of a marketplace. -/
def find (registry : Registry α) (id : MarketplaceId) : Except MarketError α :=
  match registry.adapter? id with
  | some adapter => .ok adapter
  | none => .error (.notRegistered id)

variable [Marketplace α]

/-- The adapter of a marketplace, which has to have all credentials. -/
def findReady (registry : Registry α) (id : MarketplaceId) : Except MarketError α := do
  let adapter ← registry.find id
  if Marketplace.isConfigured adapter then pure adapter else throw (.notConfigured id)

/-- The adapters that are configured and enabled, in the order of their tags. -/
def active (registry : Registry α) : List α :=
  registry.adapters.filter Marketplace.isActive

/-! ### Building -/

/-- The adapter of a marketplace before it is configured. -/
def blank : MarketplaceId → Etsy.Adapter
  | .etsy => {}

/-- The last of the configurations for a marketplace. -/
def configFor? (configs : List Config) (id : MarketplaceId) : Option Config :=
  configs.reverse.find? fun config => config.marketplace = id

/-- The configuration for a marketplace: a given one, or that of the environment if it may be
read. -/
def chooseConfig (configs : List Config) (environment : Option (String → Option String))
    (id : MarketplaceId) : Except ConfigError (Option Config) :=
  match configFor? configs id, environment with
  | some config, _ => .ok (some config)
  | none, some lookup => (Config.ofEnvironment id lookup).map some
  | none, none => .ok none

/-- The registry of all marketplaces; the first configuration that is refused is the error. -/
def build (configs : List Config) (environment : Option (String → Option String)) :
    Except ConfigError (Registry Etsy.Adapter) :=
  MarketplaceId.all.foldlM (fun registry id => do
    match ← chooseConfig configs environment id with
    | some config => pure (registry.register (← Marketplace.configure (blank id) config))
    | none => pure (registry.register (blank id))) empty

end Registry

end ShopSync
