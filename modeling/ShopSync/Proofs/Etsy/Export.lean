import Mathlib.Tactic
import ShopSync.Proofs.Etsy.Upsert

/-!
The export of products.

Main statement (`exportProducts_twice`): an export of valid products to a shop succeeds for each of
them, leaves one listing more exactly of the SKUs that had none, and touches no listing of another
SKU; and the same export a second time looks up and overwrites one listing per product and leaves
the shop as it is.
-/

namespace ShopSync

/-! ### Reports of batches in which nothing fails -/

namespace SyncResult

/-- A report that is running, with some successes more. -/
def advance (result : SyncResult) (n : Nat) : SyncResult :=
  { result with success := result.success + n, processed := result.processed + n }

theorem recordSuccess_eq {result : SyncResult} (hstatus : result.status = .running)
    (hroom : result.processed < result.total) : result.recordSuccess = result.advance 1 := by
  rw [recordSuccess, if_pos (by simp [acceptsItems, hstatus, hroom])]
  rfl

theorem advance_advance (result : SyncResult) (m n : Nat) :
    (result.advance m).advance n = result.advance (m + n) := by
  simp only [advance, Nat.add_assoc]

/-- Every item succeeded, and the batch completed. -/
structure AllSucceeded (n : Nat) (result : SyncResult) : Prop where
  status : result.status = .completed
  total : result.total = n
  processed : result.processed = n
  success : result.success = n
  failed : result.failed = 0
  errors : result.errors = []
  interruption : result.interruption = none

theorem allSucceeded_finish (id : Uuid) (marketplace : MarketplaceId) (direction : Direction)
    (n : Nat) (now after : Timestamp) :
    AllSucceeded n (((start id marketplace direction n now).advance n).finish after) where
  status := rfl
  total := rfl
  processed := Nat.zero_add n
  success := Nat.zero_add n
  failed := rfl
  errors := rfl
  interruption := rfl

end SyncResult

namespace Etsy

open Number (Binary64)

/-! ### Configurations in force -/

/-- A configuration that is accepted is valid, and is the one in force from then on. -/
theorem Adapter.valid_of_configure {adapter adapter' : Adapter} {config : Config}
    (hconfigure : adapter.configure config = .ok adapter') :
    config.validate = .ok () ∧ adapter' = { config := some config } := by
  unfold configure at hconfigure
  split at hconfigure
  case isTrue => cases hconfigure
  case isFalse =>
    cases hvalidate : config.validate with
    | error e =>
      rw [hvalidate] at hconfigure
      cases hconfigure
    | ok u =>
      rw [hvalidate] at hconfigure
      cases hconfigure
      exact ⟨rfl, rfl⟩

theorem Adapter.session_of_configure {adapter adapter' : Adapter} {config : Config}
    (hconfigure : adapter.configure config = .ok adapter')
    (hcredentials : config.hasCredentials = true) :
    adapter'.session = .ok (Session.ofConfig config) ∧
      ∃ code, parseCurrency config.currencyCode = .ok code := by
  obtain ⟨hvalidate, rfl⟩ := valid_of_configure hconfigure
  refine ⟨if_pos hcredentials, ?_⟩
  cases hcode : parseCurrency config.currencyCode with
  | error e =>
    rw [Config.validate, hcode] at hvalidate
    cases hvalidate
  | ok code => exact ⟨code, rfl⟩

theorem Adapter.code_of_session {adapter adapter' : Adapter} {config : Config} {session : Session}
    (hconfigure : adapter.configure config = .ok adapter')
    (hsession : adapter'.session = .ok session) :
    ∃ code, parseCurrency session.config.currencyCode = .ok code := by
  obtain ⟨-, rfl⟩ := valid_of_configure hconfigure
  have hcredentials : config.hasCredentials = true := by
    by_contra hlacks
    have hnone : Adapter.session { config := some config } = .error (.notConfigured .etsy) :=
      if_neg hlacks
    rw [hnone] at hsession
    cases hsession
  obtain ⟨hfound, hcode⟩ := session_of_configure hconfigure hcredentials
  rw [hsession] at hfound
  cases hfound
  exact hcode

/-! ### Batches -/

section Batch

variable (session : Session) (elsewhere : Elsewhere) {signal : Signal} {code : String}

theorem run_exportRest_cons (hnever : signal.FiresBy elsewhere fun _ => false) {product : Product}
    (products : List Product) {result : SyncResult} {v v' : Visit Shop}
    (hrun : Attempt.runIn ((Shop.server session.shopRoot).world elsewhere)
      (session.upsertListing product) { v with past := v.past ++ [.moment] } = (.ok (), v')) :
    Dialogue.run ((Shop.server session.shopRoot).world elsewhere)
        (Batch.exportRest signal session.upsertListing (product :: products) result) v =
      Dialogue.run ((Shop.server session.shopRoot).world elsewhere)
        (Batch.exportRest signal session.upsertListing products result.recordSuccess) v' := by
  have hgo : signal.interruption? (elsewhere .moment v.past) = none := by
    simpa [Signal.isStopped] using hnever v.past
  have hmoment :
      Dialogue.run ((Shop.server session.shopRoot).world elsewhere) Dialogue.moment v =
        (elsewhere .moment v.past, { v with past := v.past ++ [.moment] }) := rfl
  have hupsert : Dialogue.run ((Shop.server session.shopRoot).world elsewhere)
      (session.upsertListing product).run { v with past := v.past ++ [.moment] } =
        (.ok (), v') := hrun
  rw [Batch.exportRest, Dialogue.run_bind, hmoment]
  simp only [hgo]
  rw [Dialogue.run_bind, hupsert]

/-- Every product is listed, or there is an id for each that might have to be. -/
def HasRoom (products : List Product) (stock : Stock) : Prop :=
  (∀ product ∈ products, product.sku.text ∈ stock.skus) ∨ products.length ≤ stock.unused.length

theorem HasRoom.head {product : Product} {products : List Product} {stock : Stock}
    (h : HasRoom (product :: products) stock) :
    product.sku.text ∈ stock.skus ∨ stock.unused ≠ [] := by
  rcases h with hall | hlength
  · exact Or.inl (hall product List.mem_cons_self)
  · right
    rintro hnil
    simp [hnil] at hlength

theorem HasRoom.tail {product : Product} {products : List Product} {stock : Stock}
    (h : HasRoom (product :: products) stock) (currencyCode : String) :
    HasRoom products (stock.upsert (offerOf currencyCode product)) := by
  rcases h with hall | hlength
  · left
    intro other hother
    exact Stock.skus_subset_upsert _ _ (hall other (List.mem_cons_of_mem product hother))
  · right
    have := Stock.length_unused_upsert stock (offerOf currencyCode product)
    rw [List.length_cons] at hlength
    omega

/-- Overwriting a listing changes nothing about which listings an export would overwrite. -/
theorem listedRequests_upsert {stock : Stock} {offer : Offer} (h : offer.sku ∈ stock.skus)
    (product : Product) :
    listedRequests session (stock.upsert offer) product = listedRequests session stock product := by
  rw [listedRequests, listedRequests, Stock.upsert_of_mem h, firstId_patchFirst]

/-- An export that is not stopped: what the offers of the products do to the stock. -/
theorem run_exportRest (hcode : parseCurrency session.config.currencyCode = .ok code)
    (hnever : signal.FiresBy elsewhere fun _ => false) (products : List Product)
    (hprices : ∀ product ∈ products,
      product.price.isFinite = true ∧ product.price.lt Binary64.zero = false)
    (v : Visit Shop) (hroom : HasRoom products v.state.toStock) (result : SyncResult)
    (hstatus : result.status = .running)
    (htotal : result.processed + products.length ≤ result.total) :
    ∃ (shop : Shop) (past : List Query),
      Dialogue.run ((Shop.server session.shopRoot).world elsewhere)
          (Batch.exportRest signal session.upsertListing products result) v =
        (result.advance products.length, { state := shop, past }) ∧
      shop.toStock =
        v.state.toStock.upsertAll (products.map (offerOf session.config.currencyCode)) ∧
      ((∀ product ∈ products, product.sku.text ∈ v.state.skus) →
        requestsOf past =
          requestsOf v.past ++ products.flatMap (listedRequests session v.state.toStock)) := by
  induction products generalizing v result with
  | nil => exact ⟨v.state, v.past, rfl, rfl, fun _ => (List.append_nil _).symm⟩
  | cons product products ih =>
    rw [List.forall_mem_cons] at hprices
    rw [List.length_cons] at htotal
    obtain ⟨shop, past, hrun, hstock, hrequests⟩ :=
      runIn_upsertListing session elsewhere hcode hprices.1.1 hprices.1.2
        (v := { v with past := v.past ++ [.moment] }) hroom.head
    have hrest : HasRoom products shop.toStock := by
      rw [hstock]
      exact hroom.tail _
    have hsuccess : result.recordSuccess = result.advance 1 :=
      SyncResult.recordSuccess_eq hstatus (by omega)
    obtain ⟨shop', past', hrun', hstock', hrequests'⟩ := ih hprices.2 { state := shop, past } hrest
      (result.advance 1) hstatus (by simp only [SyncResult.advance]; omega)
    refine ⟨shop', past', ?_, ?_, ?_⟩
    · rw [run_exportRest_cons session elsewhere hnever products hrun, hsuccess, hrun',
        SyncResult.advance_advance, List.length_cons, Nat.add_comm 1]
    · rw [hstock', hstock, List.map_cons]
      rfl
    · intro hall
      rw [List.forall_mem_cons] at hall
      have hlisted : ∀ other ∈ products, other.sku.text ∈ shop.skus := by
        intro other hother
        rw [hstock]
        exact Stock.skus_subset_upsert _ _ (hall.2 other hother)
      have hsame (other : Product) :
          listedRequests session (v.state.toStock.upsert (offerOf session.config.currencyCode
            product)) other = listedRequests session v.state.toStock other :=
        listedRequests_upsert session hall.1 other
      rw [hrequests' hlisted, hrequests hall.1, hstock, List.flatMap_cons, funext hsame]
      simp

/-- The whole batch: every product succeeds. -/
theorem runIn_exportProducts {adapter : Adapter} (hsession : adapter.session = .ok session)
    (hcode : parseCurrency session.config.currencyCode = .ok code)
    (hnever : signal.FiresBy elsewhere fun _ => false) (products : List Product)
    (hprices : ∀ product ∈ products,
      product.price.isFinite = true ∧ product.price.lt Binary64.zero = false)
    (v : Visit Shop) (hroom : HasRoom products v.state.toStock) :
    ∃ (result : SyncResult) (shop : Shop) (past : List Query),
      Attempt.runIn ((Shop.server session.shopRoot).world elsewhere)
          (adapter.exportProducts products signal) v = (.ok result, { state := shop, past }) ∧
      result.AllSucceeded products.length ∧
      shop.toStock =
        v.state.toStock.upsertAll (products.map (offerOf session.config.currencyCode)) ∧
      ((∀ product ∈ products, product.sku.text ∈ v.state.skus) →
        requestsOf past =
          requestsOf v.past ++ products.flatMap (listedRequests session v.state.toStock)) := by
  let past₁ := v.past ++ [Query.moment]
  let past₂ := past₁ ++ [Query.freshId]
  let past₃ := past₂ ++ [Query.moment]
  let running := SyncResult.start (elsewhere .freshId past₁) .etsy .outbound products.length
    (elsewhere .moment past₂).wall
  obtain ⟨shop, past, hrun, hstock, hrequests⟩ := run_exportRest session elsewhere hcode
    hnever products hprices { v with past := past₃ } hroom running rfl
    (by exact Nat.le_of_eq (Nat.zero_add _))
  refine ⟨(running.advance products.length).finish (elsewhere .moment past).wall, shop,
    past ++ [.moment], ?_, SyncResult.allSucceeded_finish _ _ _ _ _ _, hstock, ?_⟩
  · rw [Adapter.exportProducts, Adapter.runIn_withSession hsession, Batch.exportProducts]
    refine (Attempt.runIn_moment_bind _ _).trans ?_
    rw [hnever v.past]
    refine (Attempt.runIn_lift_bind Dialogue.freshId _).trans ?_
    refine (Attempt.runIn_moment_bind _ _).trans ?_
    refine (Attempt.runIn_lift_bind _ _).trans ?_
    have hfinish (p : SyncResult × Visit Shop)
        (hp : p = (running.advance products.length, { state := shop, past })) :
        Attempt.runIn ((Shop.server session.shopRoot).world elsewhere)
            (ExceptT.lift Dialogue.moment >>= fun after => pure (p.1.finish after.wall)) p.2 =
          (.ok ((running.advance products.length).finish (elsewhere .moment past).wall),
            { state := shop, past := past ++ [.moment] }) := by
      rw [hp]
      rfl
    exact hfinish _ hrun
  · intro hall
    have hbefore : requestsOf past₃ = requestsOf v.past := by
      simp only [past₁, past₂, past₃, requestsOf_append, requestsOf_moment, requestsOf_freshId,
        List.append_nil]
    rw [requestsOf_append, hrequests hall, requestsOf_moment, List.append_nil, hbefore]

end Batch

/-! ### The same export twice -/

/-- The lookup of a product, and the overwriting of the listing with an id. -/
def upsertRequests (session : Session) (product : Product) (id : Int) : List Http.Request :=
  [session.client.request .get (session.lookupUrl product.sku) none,
    session.client.request .patch (session.listingUrl (idText id))
      (some (ListingFields.sent session.config.currencyCode product).toJson)]

/-- An export of valid products to a shop, and the same export again. -/
theorem exportProducts_twice {adapter adapter' : Adapter} {config : Config}
    (hconfigure : adapter.configure config = .ok adapter')
    (hcredentials : config.hasCredentials = true) (products : List Product)
    (hprices : ∀ product ∈ products,
      product.price.isFinite = true ∧ product.price.lt Binary64.zero = false)
    (shop : Shop) (hunused : products.length ≤ shop.unused.length) (elsewhere : Elsewhere)
    (signal : Signal) (hnever : signal.FiresBy elsewhere fun _ => false) :
    let session := Session.ofConfig config
    let run := Attempt.runIn ((Shop.server session.shopRoot).world elsewhere)
      (adapter'.exportProducts products signal)
    ∃ (first second : SyncResult) (after : Shop) (past past' : List Query) (idOf : Product → Int),
      run { state := shop, past := [] } = (.ok first, { state := after, past }) ∧
      first.AllSucceeded products.length ∧
      (∀ sku ∈ products.map fun product => product.sku.text,
        after.skus.count sku = max 1 (shop.skus.count sku)) ∧
      (∀ sku ∉ products.map fun product => product.sku.text,
        (after.listings.filter fun l => l.sku = sku) =
          shop.listings.filter fun l => l.sku = sku) ∧
      run { state := after, past } = (.ok second, { state := after, past := past' }) ∧
      second.AllSucceeded products.length ∧
      (∀ product ∈ products, firstId product.sku.text after.listings = some (idOf product)) ∧
      requestsOf past' = requestsOf past ++
        products.flatMap fun product => upsertRequests session product (idOf product) := by
  obtain ⟨hsession, code, hcode⟩ := Adapter.session_of_configure hconfigure hcredentials
  let offers := products.map (offerOf config.currencyCode)
  have hskus : offers.map Offer.sku = products.map fun product => product.sku.text := by
    rw [List.map_map]
    rfl
  have hoffers : offers.length ≤ shop.unused.length := by rwa [List.length_map]
  obtain ⟨first, after, past, hrun, hfirst, hafter, -⟩ :=
    runIn_exportProducts _ elsewhere hsession hcode hnever products hprices
      { state := shop, past := [] } (Or.inr hunused)
  change after.toStock = shop.toStock.upsertAll offers at hafter
  have hlisted : ∀ product ∈ products, product.sku.text ∈ after.skus := by
    intro product hproduct
    rw [hafter]
    exact Stock.mem_skus_upsertAll hoffers _ (List.mem_map_of_mem hproduct)
  obtain ⟨second, again, past', hrun', hsecond, hagain, hrequests⟩ :=
    runIn_exportProducts _ elsewhere hsession hcode hnever products hprices
      { state := after, past } (Or.inl hlisted)
  change again.toStock = after.toStock.upsertAll offers at hagain
  have hsame : again = after := by
    apply Shop.ext
    rw [hagain, hafter, Stock.upsertAll_upsertAll hoffers]
  rw [hsame] at hrun'
  have hids : ∀ product ∈ products, firstId product.sku.text after.listings =
      some ((firstId product.sku.text after.listings).getD 0) := by
    intro product hproduct
    cases hid : firstId product.sku.text after.listings with
    | none => exact absurd (hlisted product hproduct) (firstId_eq_none_iff.1 hid)
    | some id => rfl
  refine ⟨first, second, after, past, past', _, hrun, hfirst, ?_, ?_, hrun', hsecond,
    hids, ?_⟩
  · intro sku hsku
    rw [hafter, Stock.count_sku_upsertAll hoffers, hskus, if_pos hsku]
  · intro sku hsku
    rw [← hskus] at hsku
    rw [hafter]
    exact Stock.filter_sku_upsertAll hsku
  · rw [hrequests hlisted]
    refine congrArg _ (List.flatMap_congr ?_)
    intro product hproduct
    rw [listedRequests, hids product hproduct]
    rfl

/-- A shop with two listings of one SKU and one of another. -/
def sampleShop : Shop where
  listings :=
    [{ id := 3, sku := "A", fields := fun _ => none, images := [] },
      { id := 8, sku := "B", fields := fun _ => none, images := [] },
      { id := -5, sku := "A", fields := fun _ => none, images := [] }]
  unused := [12, 13, 4]
  nodup := by decide
  inRange := by decide

/-- Products of which two have the same SKU but not the same category; that of the third is new. -/
def sampleProducts : List Product :=
  [{ sku := ⟨"A", by decide⟩, name := "Mug", price := Binary64.ofNat 20, quantity := 1,
     categoryId := "7" },
    { sku := ⟨"C/1 ü", by decide⟩, name := "Bowl", price := Binary64.ofNat 5, quantity := 2,
      images := ["https://example.test/bowl.png"] },
    { sku := ⟨"A", by decide⟩, name := "Mug, blue", price := Binary64.zero, quantity := 0 }]

/-- Both listings of the first SKU stay, the new one is listed once, and the third is untouched. -/
theorem exportProducts_sampleProducts :
    let session := Session.ofConfig sampleConfig
    let run := Attempt.runIn ((Shop.server session.shopRoot).world (still fun _ => []))
      (Adapter.exportProducts { config := some sampleConfig } sampleProducts { token := 0 })
    Adapter.configure {} sampleConfig = .ok { config := some sampleConfig } ∧
      sampleConfig.hasCredentials = true ∧
      (∀ product ∈ sampleProducts,
        product.price.isFinite = true ∧ product.price.lt Binary64.zero = false) ∧
      sampleProducts.length ≤ sampleShop.unused.length ∧
      ∃ (first second : SyncResult) (after : Shop) (past past' : List Query),
        run { state := sampleShop, past := [] } = (.ok first, { state := after, past }) ∧
        first.AllSucceeded 3 ∧ after.skus.count "A" = 2 ∧ after.skus.count "C/1 ü" = 1 ∧
        (after.listings.filter fun l => l.sku = "B") =
          [{ id := 8, sku := "B", fields := fun _ => none, images := [] }] ∧
        run { state := after, past } = (.ok second, { state := after, past := past' }) ∧
        second.AllSucceeded 3 := by
  have hconfigure : Adapter.configure {} sampleConfig = .ok { config := some sampleConfig } := by
    decide +kernel
  have hprices : ∀ product ∈ sampleProducts,
      product.price.isFinite = true ∧ product.price.lt Binary64.zero = false := by
    decide +kernel
  have hids : sampleProducts.length ≤ sampleShop.unused.length := by decide
  obtain ⟨first, second, after, past, past', idOf, hrun, hfirst, hcount, hothers, hrun', hsecond,
      -⟩ :=
    exportProducts_twice hconfigure rfl sampleProducts hprices sampleShop hids (still fun _ => [])
      { token := 0 } (firesBy_still 0 fun _ => false)
  exact ⟨hconfigure, rfl, hprices, hids, first, second, after, past, past', hrun, hfirst,
    hcount "A" (by decide), hcount "C/1 ü" (by decide), hothers "B" (by decide), hrun', hsecond⟩

end Etsy

end ShopSync
