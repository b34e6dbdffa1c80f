import ShopSync.Proofs.Etsy.Requests
import ShopSync.Proofs.Http.Secrecy

/-!
Adapters with other secrets.

What a session asks depends on its secrets in no other way than through the calls of its client, and
those are alike.  So two adapters whose configurations differ in nothing but their secrets do alike
whatever they are asked for (`Adapter.Alike.attempt`).
-/

namespace ShopSync

/-- The configuration with other secrets. -/
def Config.withSecrets (config : Config) (accessToken apiKey : String) : Config :=
  { config with accessToken, apiKey }

/-- The configurations differ in nothing but their secrets, and each of these is blank in both or in
neither. -/
inductive Config.Alike (config : Config) : Config → Prop
  | intro (accessToken apiKey : String)
      (token : Text.isBlankText accessToken = Text.isBlankText config.accessToken)
      (key : Text.isBlankText apiKey = Text.isBlankText config.apiKey) :
      Config.Alike config (config.withSecrets accessToken apiKey)

namespace Config.Alike

variable {config config' : Config}

theorem refl (config : Config) : config.Alike config := .intro _ _ rfl rfl

/-- Secrets that are not blank are as good as others. -/
theorem of_ne {accessToken apiKey : String} (htoken : Text.trim config.accessToken ≠ "")
    (hkey : Text.trim config.apiKey ≠ "") (htoken' : Text.trim accessToken ≠ "")
    (hkey' : Text.trim apiKey ≠ "") : config.Alike (config.withSecrets accessToken apiKey) := by
  have hfilled {s : String} (h : Text.trim s ≠ "") : Text.isBlankText s = false :=
    Bool.eq_false_iff.2 fun hblank => h (Text.trim_eq_empty_iff.2 hblank)
  exact .intro _ _ ((hfilled htoken').trans (hfilled htoken).symm)
    ((hfilled hkey').trans (hfilled hkey).symm)

theorem hasCredentials (h : config.Alike config') :
    config'.hasCredentials = config.hasCredentials := by
  obtain ⟨accessToken, apiKey, htoken, hkey⟩ := h
  simp only [Config.hasCredentials, withSecrets, htoken, hkey]

end Config.Alike

namespace Etsy

open Attempt Http.Client

/-! ### Sessions -/

namespace Session

/-- The session with other secrets. -/
def withSecrets (session : Session) (accessToken apiKey : String) : Session :=
  { session with
    config := session.config.withSecrets accessToken apiKey
    client :=
      { session.client with
        credentials := { accessToken := Text.trim accessToken, apiKey := Text.trim apiKey } } }

theorem withSecrets_ofConfig (config : Config) (accessToken apiKey : String) :
    ofConfig (config.withSecrets accessToken apiKey) =
      (ofConfig config).withSecrets accessToken apiKey := rfl

variable (session : Session) (token key : String)

theorem alike_findListing (sku : Sku) :
    (session.findListing sku).Alike ((session.withSecrets token key).findListing sku) :=
  (alike_get _ _ _ _).bind fun _ => alike_refl _

theorem alike_requireListing (sku : Sku) :
    (session.requireListing sku).Alike ((session.withSecrets token key).requireListing sku) :=
  (session.alike_findListing token key sku).bind fun _ => alike_refl _

theorem alike_patchListing (listingId : String) (fields : ListingFields) :
    (session.patchListing listingId fields).Alike
      ((session.withSecrets token key).patchListing listingId fields) :=
  alike_push _ _ _ _ _

theorem alike_attachImages (listingId : String) (rank : Nat) (images : List String) :
    (session.attachImages listingId rank images).Alike
      ((session.withSecrets token key).attachImages listingId rank images) := by
  induction images generalizing rank with
  | nil => exact alike_refl _
  | cons image rest ih =>
    exact alike_liftM_bind (alike_push _ _ _ _ _) fun _ => ih (rank + 1)

theorem alike_createListing (product : Product) (fields : ListingFields) :
    (session.createListing product fields).Alike
      ((session.withSecrets token key).createListing product fields) := by
  refine (alike_send _ _ _ _ _ _).bind fun created => ?_
  cases created.bind Listing.id with
  | none => exact alike_refl _
  | some listingId => exact session.alike_attachImages token key listingId 1 product.images

theorem alike_upsertListing (product : Product) :
    (session.upsertListing product).Alike
      ((session.withSecrets token key).upsertListing product) := by
  refine alike_bind _ fun fields => ?_
  refine (session.alike_findListing token key product.sku).bind fun found => ?_
  cases found with
  | none => exact session.alike_createListing token key product fields
  | some listingId => exact session.alike_patchListing token key listingId fields

theorem alike_ordersFrom (since : Timestamp) (signal : Signal) (offset : Nat) (done : List Order) :
    (session.ordersFrom since signal offset done).Alike
      ((session.withSecrets token key).ordersFrom since signal offset done) := by
  induction offset, done using ordersFrom_induction since with
  | step offset done ih =>
    rw [ordersFrom_eq, ordersFrom_eq]
    refine (alike_get _ _ _ _).bind fun page => ?_
    dsimp only
    split
    next hmore =>
      refine alike_bind _ fun now => ?_
      split
      · exact alike_refl _
      · exact ih page hmore
    next => exact alike_refl _

end Session

end Etsy

/-! ### Batches -/

namespace Batch

variable {signal : Signal} {upsert upsert' : Product → Attempt Unit}

theorem alike_exportRest (hupsert : ∀ product, (upsert product).Alike (upsert' product))
    (products : List Product) (result : SyncResult) :
    Dialogue.Alike Eq (exportRest signal upsert products result)
      (exportRest signal upsert' products result) := by
  induction products generalizing result with
  | nil => exact Dialogue.alike_refl _
  | cons product rest ih =>
    rw [exportRest, exportRest]
    refine Dialogue.alike_bind _ fun now => ?_
    split
    · exact Dialogue.alike_refl _
    · refine Dialogue.Alike.bind (hupsert product) ?_
      rintro outcome _ rfl
      cases outcome with
      | ok u => exact ih _
      | error e =>
        dsimp only
        split
        · exact Dialogue.alike_refl _
        · exact ih _

theorem alike_exportProducts (hupsert : ∀ product, (upsert product).Alike (upsert' product))
    (marketplace : MarketplaceId) (products : List Product) :
    (exportProducts marketplace products signal upsert).Alike
      (exportProducts marketplace products signal upsert') := by
  unfold Attempt.Alike
  rw [run_exportProducts, run_exportProducts]
  refine Dialogue.alike_bind _ fun entry => ?_
  split
  · exact Dialogue.alike_refl _
  · refine Dialogue.alike_bind _ fun id => Dialogue.alike_bind _ fun start => ?_
    refine (alike_exportRest hupsert products _).bind ?_
    rintro result _ rfl
    exact Dialogue.alike_refl _

end Batch

/-! ### Adapters -/

namespace Etsy.Adapter

open Attempt Session

/-- The configurations in force are alike, or there is none in both. -/
def Alike (adapter adapter' : Adapter) : Prop :=
  Option.Rel Config.Alike adapter.config adapter'.config

namespace Alike

variable {α : Type} {adapter adapter' : Adapter}

/-- Configuring looks at no secret. -/
theorem configure {config config' : Config} (h : config.Alike config') :
    BothGive Alike (adapter.configure config) (adapter'.configure config') := by
  obtain ⟨token, key, htoken, hkey⟩ := id h
  have hconfigure (adapter : Adapter) (other : Config) :
      adapter.configure other = other.validate.map fun _ => { config := some other } := by
    have hmarketplace : other.marketplace = .etsy := by cases other.marketplace; rfl
    unfold Adapter.configure
    rw [if_neg (not_not.2 hmarketplace)]
    cases other.validate <;> rfl
  have hvalidate : (config.withSecrets token key).validate = config.validate := rfl
  rw [hconfigure, hconfigure, hvalidate]
  cases config.validate with
  | error e => exact .error e
  | ok u => exact .ok (.some h)

theorem withSession (h : adapter.Alike adapter') {f : Session → Attempt α}
    (hf : ∀ session token key, (f session).Alike (f (session.withSecrets token key))) :
    (adapter.withSession f).Alike (adapter'.withSession f) := by
  obtain ⟨config⟩ := adapter
  obtain ⟨config'⟩ := adapter'
  cases h with
  | none => exact alike_refl _
  | @some config config' h =>
    obtain ⟨token, key, htoken, hkey⟩ := id h
    have hcredentials := h.hasCredentials
    unfold Adapter.withSession Adapter.session
    dsimp only
    rw [hcredentials]
    split
    · rw [Session.withSecrets_ofConfig]
      exact hf (Session.ofConfig config) token key
    · exact alike_refl _

/-- Adapters that differ in their secrets do alike whatever they are asked for. -/
theorem attempt (h : adapter.Alike adapter') (call : MarketCall) :
    (call.attempt adapter).Alike (call.attempt adapter') := by
  cases call with
  | exportProducts products signal =>
    exact h.withSession fun session token key =>
      Batch.alike_exportProducts (session.alike_upsertListing token key) _ products
  | updateProduct product =>
    refine h.withSession fun session token key => ?_
    refine (session.alike_requireListing token key product.sku).bind fun listingId => ?_
    exact alike_bind _ fun fields => session.alike_patchListing token key listingId fields
  | updateStock sku quantity =>
    exact h.withSession fun session token key =>
      (session.alike_requireListing token key sku).bind fun _ =>
        session.alike_patchListing token key _ _
  | updatePrice sku price =>
    refine h.withSession fun session token key => alike_bind _ fun money => ?_
    exact (session.alike_requireListing token key sku).bind fun _ =>
      session.alike_patchListing token key _ _
  | deleteProduct sku =>
    exact h.withSession fun session token key =>
      (session.alike_requireListing token key sku).bind fun _ =>
        Http.Client.alike_delete _ _ _
  | importOrders since signal =>
    refine h.withSession fun session token key => alike_bind _ fun now => ?_
    split
    · exact alike_bind _ fun _ => session.alike_ordersFrom token key _ _ _ _
    · exact session.alike_ordersFrom token key _ _ _ _
  | updateOrderStatus orderId text => exact alike_refl _
  | markAsShipped orderId shipment =>
    exact h.withSession fun session token key => Http.Client.alike_push _ _ _ _ _
  | categories =>
    exact h.withSession fun session token key =>
      (Http.Client.alike_get _ _ _ _).bind fun _ => alike_refl _
  | generateFeed products => exact alike_refl _

end Alike

end Etsy.Adapter

end ShopSync
