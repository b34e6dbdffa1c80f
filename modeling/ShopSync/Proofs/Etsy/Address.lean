import Mathlib.Tactic
import ShopSync.Proofs.Etsy.Requests

/-!
Values in addresses.

SKUs, identifiers of listings and orders, and the identifier of the shop come from outside and may
be any texts.  Whatever they are, they cannot lead a request to another place: a value is inserted
as one segment that divides nothing and is read as the value (`StandsFor`), so an address belongs to
one resource of one shop (`Resource.url_eq_iff`), and a call asks for no resources but those that it
concerns (`Adapter.attempt_addresses`).
-/

namespace ShopSync.Etsy

open Text.Percent (IsSegment decode? encode)

/-- The characters that divide an address. -/
def dividers : List Char := ['/', '?', '&', '=', '#']

/-- The text stands for the value in an address: it has the form of a segment, divides nothing, and
is read as the value. -/
structure StandsFor (text : List Char) (value : String) : Prop where
  segment : IsSegment text
  undivided : ∀ c ∈ dividers, c ∉ text
  read : decode? text = some value

theorem AddressPart.standsFor_inserted (value : String) :
    StandsFor (AddressPart.inserted value).written.toList value where
  segment := Text.Percent.isSegment_encode value
  undivided := by
    have hdividers : dividers.all (fun c => !Text.Percent.isSegmentChar c) = true := by decide
    intro c hc
    have hdivider := List.all_eq_true.1 hdividers c hc
    exact Text.Percent.notMem_encode (by simpa using hdivider) value
  read := Text.Percent.decode?_encode value

namespace Resource

variable {base shopId shopId' : String} {resource resource' : Resource}

theorem exists_toList_writtenParts (resource : Resource) :
    ∃ rest, (writtenParts resource.parts).toList = '/' :: rest := by
  rw [toList_writtenParts]
  cases resource <;> exact ⟨_, rfl⟩

theorem toList_url (base shopId : String) (resource : Resource) :
    (resource.url base shopId).toList =
      base.toList ++ ("/application/shops/".toList ++ ((encode (Text.trim shopId)).toList ++
        (writtenParts resource.parts).toList)) := by
  simp only [url, writtenParts, List.foldr_cons, AddressPart.written, String.toList_append]

/-- **An address belongs to one resource of one shop.** -/
theorem url_eq_iff :
    resource.url base shopId = resource'.url base shopId' ↔
      Text.trim shopId = Text.trim shopId' ∧ resource = resource' := by
  constructor
  · intro h
    have hchars := congrArg String.toList h
    obtain ⟨rest, hrest⟩ := resource.exists_toList_writtenParts
    obtain ⟨rest', hrest'⟩ := resource'.exists_toList_writtenParts
    rw [toList_url, toList_url, List.append_cancel_left_eq, List.append_cancel_left_eq, hrest,
      hrest'] at hchars
    -- the segment of the shop ends where the first slash is
    have hslash (value : String) : '/' ∉ (encode value).toList :=
      Text.Percent.notMem_encode (by decide) value
    have hshop : encode (Text.trim shopId) = encode (Text.trim shopId') := by
      have htake := congrArg (List.takeWhile (· ≠ '/')) hchars
      rw [Text.takeWhile_ne _ (hslash _), Text.takeWhile_ne _ (hslash _)] at htake
      exact String.toList_inj.1 htake
    rw [hshop, List.append_cancel_left_eq, ← hrest, ← hrest'] at hchars
    have hread := resource.read?_writtenParts
    rw [hchars, read?_writtenParts] at hread
    obtain ⟨hpath, hparameters⟩ := Http.Target.mk.inj (Option.some.inj hread)
    exact ⟨Text.Percent.encode_injective hshop,
      (eq_of_target (List.cons.inj hpath).2 hparameters).symm⟩
  · rintro ⟨hshop, rfl⟩
    rw [url, url, hshop]

end Resource

namespace Adapter

/-- **No value leads elsewhere.**  Whoever answers: a call asks only for resources that it concerns
and, when it is for the taxonomy, for that.  What is inserted into an address stands for its value,
and addresses below one base are the same exactly when the shops are, once they are trimmed, and the
resources, with all values in them. -/
theorem attempt_addresses {σ : Type} (world : World σ) {adapter : Adapter} {config : Config}
    (hconfig : adapter.config = some config) (call : MarketCall) (s : σ) :
    (∀ request ∈ requestsOf ((call.attempt adapter).run.queries world s),
      (∃ resource, call.Concerns resource ∧
        request.url = resource.url (Session.baseUrlOf config) config.shopId) ∨
      (call = .categories ∧
        request.url = Session.baseUrlOf config ++ "/application/seller-taxonomy/nodes")) ∧
    (∀ value, StandsFor (AddressPart.inserted value).written.toList value) ∧
    ∀ (base shopId shopId' : String) (resource resource' : Resource),
      resource.url base shopId = resource'.url base shopId' ↔
        Text.trim shopId = Text.trim shopId' ∧ resource = resource' := by
  refine ⟨?_, AddressPart.standsFor_inserted, fun _ _ _ _ _ => Resource.url_eq_iff⟩
  have hsession {session : Session} (h : adapter.session = .ok session) :
      Session.ofConfig config = session := by
    obtain ⟨config', hconfig', -, rfl⟩ := session_eq_ok_iff.1 h
    rw [Option.some.inj (hconfig.symm.trans hconfig')]
  have hasks : (call.attempt adapter).Asks fun q => ∀ request, q.request? = some request →
      (∃ resource, call.Concerns resource ∧
        request.url = resource.url (Session.baseUrlOf config) config.shopId) ∨
      (call = .categories ∧
        request.url = Session.baseUrlOf config ++ "/application/seller-taxonomy/nodes") := by
    refine asks_attempt_of_permits call (fun session h => ?_) fun session h hcall => ?_
    · obtain rfl := hsession h
      refine ⟨nofun, nofun, fun _ => nofun, ?_⟩
      rintro resource hconcerns method body - request ⟨⟩
      rw [Http.Client.url_request]
      exact .inl ⟨resource, hconcerns, rfl⟩
    · obtain rfl := hsession h
      rintro request ⟨⟩
      rw [Http.Client.url_request]
      exact .inr ⟨hcall, rfl⟩
  intro request hrequest
  obtain ⟨q, hq, hsent⟩ := List.mem_filterMap.1 hrequest
  exact Dialogue.Always.forall_mem_queries hasks world s q hq request hsent

/-- A shop and a SKU that are written with characters that divide addresses: the stock is looked up
and written below that shop, where they are encoded. -/
theorem attempt_addresses_dividers :
    let config :=
      { sampleConfig with shopId := " 50%/7 ", baseUrl := some "https://shop.test/" }
    let call := MarketCall.updateStock { text := "a/b?c=d&e#ü", normal := by decide } 1
    let requests := requestsOf
      ((call.attempt ({ config := some config } : Adapter)).run.queries oneListing ⟨(), []⟩)
    requests.map Http.Request.url =
        ["https://shop.test/application/shops/50%25%2F7/listings?sku=a%2Fb%3Fc%3Dd%26e%23%C3%BC",
          "https://shop.test/application/shops/50%25%2F7/listings/7"] ∧
      ∀ request ∈ requests, ∃ resource, call.Concerns resource ∧
        request.url = resource.url "https://shop.test" " 50%/7 " := by
  intro config call requests
  have hurls : requests.map Http.Request.url =
      ["https://shop.test/application/shops/50%25%2F7/listings?sku=a%2Fb%3Fc%3Dd%26e%23%C3%BC",
        "https://shop.test/application/shops/50%25%2F7/listings/7"] := by
    decide +kernel
  have hbase : Session.baseUrlOf config = "https://shop.test" := by decide +kernel
  have hconfig : Adapter.config { config := some config } = some config := rfl
  have hrequests := (attempt_addresses oneListing hconfig call ⟨(), []⟩).1
  rw [hbase] at hrequests
  refine ⟨hurls, fun request hrequest => ?_⟩
  rcases hrequests request hrequest with hresource | ⟨hcategories, -⟩
  · exact hresource
  · exact absurd hcategories MarketCall.noConfusion

end Adapter

end ShopSync.Etsy
