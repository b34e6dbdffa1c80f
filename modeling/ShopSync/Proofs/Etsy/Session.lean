import Mathlib.Tactic
import ShopSync.Etsy.Adapter
import ShopSync.Proofs.Dialogue
import ShopSync.Proofs.Http.Target
import ShopSync.Proofs.Number.Digits
import ShopSync.Proofs.Server

/-!
The addresses of a session, as a server reads them.

A session asks for a few kinds of resources of its shop.  The address of each starts with the same
root, and behind it stand fixed texts and values, which are encoded.  What is written there is read
as the path and the parameters of the resource, so different resources have different addresses.
-/

namespace ShopSync.Etsy

open Number (digits integerText)
open Text.Percent (encode encode_eq_self isPlain)

/-! ### Plain characters -/

theorem isPlain_of_isDigit {c : Char} (h : Number.isDigit c = true) : isPlain c = true := by
  simp only [Number.isDigit, Bool.and_eq_true, decide_eq_true_eq, Char.le_def,
    UInt32.le_iff_toNat_le] at h
  change 0x30 ≤ c.toNat ∧ c.toNat ≤ 0x39 at h
  have hbyte : (UInt8.ofNat c.toNat).toNat = c.toNat := by
    rw [UInt8.toNat_ofNat']
    omega
  simp only [isPlain, Text.Percent.isUnreserved, hbyte, Bool.and_eq_true, Bool.or_eq_true,
    decide_eq_true_eq, beq_iff_eq]
  omega

theorem all_isPlain_digits (n : Nat) : (digits n).all isPlain = true :=
  List.all_eq_true.2 fun _ hc => isPlain_of_isDigit (Number.isDigit_of_mem_digits hc)

theorem all_isPlain_integerText (n : Int) : (integerText n).all isPlain = true := by
  unfold integerText
  split
  · exact all_isPlain_digits _
  · rw [List.all_cons, all_isPlain_digits, Bool.and_true]
    decide

/-! ### Resources -/

/-- What can be asked for below a shop. -/
inductive Resource where
  /-- The listings of a SKU. -/
  | lookup (sku : String)
  | listings
  | listing (listingId : String)
  | images (listingId : String)
  /-- The receipts since a second, from a position on. -/
  | receipts (second : Int) (offset : Nat)
  /-- The tracking of an order. -/
  | tracking (orderId : String)
deriving DecidableEq

/-- A part of an address: a text that is always the same, or a value that is inserted. -/
inductive AddressPart where
  | fixed (text : String)
  | inserted (value : String)

/-- Values are inserted in encoded form. -/
def AddressPart.written : AddressPart → String
  | fixed text => text
  | inserted value => encode value

/-- The parts one after another. -/
def writtenParts (parts : List AddressPart) : String :=
  parts.foldr (fun part rest => part.written ++ rest) ""

namespace Resource

/-- The parts of the address of a resource, behind that of its shop. -/
def parts : Resource → List AddressPart
  | lookup sku => [.fixed "/listings?sku=", .inserted sku]
  | listings => [.fixed "/listings"]
  | listing listingId => [.fixed "/listings/", .inserted listingId]
  | images listingId => [.fixed "/listings/", .inserted listingId, .fixed "/images"]
  | receipts second offset =>
    [.fixed "/receipts?min_created=", .inserted (String.ofList (integerText second)),
      .fixed "&limit=100&offset=", .inserted (String.ofList (digits offset))]
  | tracking orderId => [.fixed "/receipts/", .inserted orderId, .fixed "/tracking"]

/-- The address of a resource of a shop. -/
def url (base shopId : String) (resource : Resource) : String :=
  base ++ writtenParts
    (.fixed "/application/shops/" :: .inserted (Text.trim shopId) :: resource.parts)

/-- The segments of the path to a resource. -/
def path : Resource → List String
  | lookup _ => ["listings"]
  | listings => ["listings"]
  | listing listingId => ["listings", listingId]
  | images listingId => ["listings", listingId, "images"]
  | receipts _ _ => ["receipts"]
  | tracking orderId => ["receipts", orderId, "tracking"]

def parameters : Resource → List (String × String)
  | lookup sku => [("sku", sku)]
  | receipts second offset =>
    [("min_created", String.ofList (integerText second)), ("limit", "100"),
      ("offset", String.ofList (digits offset))]
  | _ => []

theorem toList_writtenParts (resource : Resource) :
    (writtenParts resource.parts).toList =
      Http.segmentsText resource.path ++ Http.queryText resource.parameters := by
  have hlistings : encode "listings" = "listings" := encode_eq_self (by decide)
  have hreceipts : encode "receipts" = "receipts" := encode_eq_self (by decide)
  have himages : encode "images" = "images" := encode_eq_self (by decide)
  have htracking : encode "tracking" = "tracking" := encode_eq_self (by decide)
  have hsku : encode "sku" = "sku" := encode_eq_self (by decide)
  have hsince : encode "min_created" = "min_created" := encode_eq_self (by decide)
  have hlimit : encode "limit" = "limit" := encode_eq_self (by decide)
  have hsize : encode "100" = "100" := encode_eq_self (by decide)
  have hoffset : encode "offset" = "offset" := encode_eq_self (by decide)
  cases resource <;>
    simp [writtenParts, parts, AddressPart.written, path, parameters, Http.segmentsText,
      Http.queryText, Http.parameterText, hlistings, hreceipts, himages, htracking, hsku, hsince,
      hlimit, hsize, hoffset]

/-- The path and the parameters say which resource it is. -/
theorem eq_of_target {resource resource' : Resource} (hpath : resource.path = resource'.path)
    (hparameters : resource.parameters = resource'.parameters) : resource = resource' := by
  cases resource <;> cases resource' <;>
    simp_all [path, parameters, String.ofList_inj, Number.digits_injective.eq_iff,
      Number.integerText_injective.eq_iff]

theorem read?_writtenParts (resource : Resource) :
    Http.Target.read? (writtenParts resource.parts).toList =
      some { path := "" :: resource.path, parameters := resource.parameters } := by
  rw [toList_writtenParts, Http.Target.read?_append]

end Resource

/-! ### Addresses -/

namespace Session

variable (session : Session)

/-- The address that all addresses of the shop start with. -/
def shopRoot : String :=
  session.baseUrl ++ "/application/shops/"
    ++ Text.Percent.encode (Text.trim session.config.shopId)

theorem shopUrl_eq (path : String) : session.shopUrl path = session.shopRoot ++ path := rfl

/-- The address of a resource. -/
def urlOf (resource : Resource) : String := resource.url session.baseUrl session.config.shopId

theorem urlOf_eq (resource : Resource) :
    session.urlOf resource = session.shopRoot ++ writtenParts resource.parts := by
  simp only [urlOf, Resource.url, shopRoot, writtenParts, List.foldr_cons, AddressPart.written,
    String.append_assoc]

/-! #### The addresses that a session uses -/

theorem lookupUrl_eq (sku : Sku) : session.lookupUrl sku = session.urlOf (.lookup sku.text) := by
  rw [lookupUrl, shopUrl_eq, urlOf_eq]
  simp [writtenParts, Resource.parts, AddressPart.written]

theorem listingsUrl_eq : session.listingsUrl = session.urlOf .listings := by
  rw [listingsUrl, shopUrl_eq, urlOf_eq]
  simp [writtenParts, Resource.parts, AddressPart.written]

theorem listingUrl_eq (listingId : String) :
    session.listingUrl listingId = session.urlOf (.listing listingId) := by
  rw [listingUrl, shopUrl_eq, urlOf_eq]
  simp [writtenParts, Resource.parts, AddressPart.written]

theorem imagesUrl_eq (listingId : String) :
    session.imagesUrl listingId = session.urlOf (.images listingId) := by
  rw [imagesUrl, shopUrl_eq, urlOf_eq]
  simp [writtenParts, Resource.parts, AddressPart.written, String.append_assoc]

theorem trackingUrl_eq (orderId : String) :
    session.trackingUrl orderId = session.urlOf (.tracking orderId) := by
  rw [trackingUrl, shopUrl_eq, urlOf_eq]
  simp [writtenParts, Resource.parts, AddressPart.written, String.append_assoc]

theorem receiptsUrl_eq (second : Int) (offset : Nat) :
    session.receiptsUrl second offset = session.urlOf (.receipts second offset) := by
  have hsecond := Text.Percent.encode_of_all_isPlain (all_isPlain_integerText second)
  have hoffset := Text.Percent.encode_of_all_isPlain (all_isPlain_digits offset)
  have hsize : "&limit=" ++ (String.ofList (digits pageSize) ++ "&offset=") =
      "&limit=100&offset=" := by
    decide
  rw [receiptsUrl, shopUrl_eq, urlOf_eq]
  simp only [writtenParts, Resource.parts, AddressPart.written, List.foldr_cons, List.foldr_nil,
    hsecond, hoffset, ← hsize, String.append_assoc, String.append_empty]

/-! #### What a server reads -/

theorem target_urlOf (resource : Resource) :
    Http.Target.below? session.shopRoot (session.urlOf resource) =
      some { path := "" :: resource.path, parameters := resource.parameters } := by
  rw [urlOf_eq, Http.Target.below?_append, Resource.read?_writtenParts]

theorem urlOf_injective : Function.Injective session.urlOf := by
  intro resource resource' h
  have htarget := session.target_urlOf resource
  rw [h, target_urlOf] at htarget
  obtain ⟨hpath, hparameters⟩ := Http.Target.mk.inj (Option.some.inj htarget)
  exact (Resource.eq_of_target (List.cons.inj hpath).2 hparameters).symm

theorem target_receiptsUrl (second : Int) (offset : Nat) :
    Http.Target.below? session.shopRoot (session.receiptsUrl second offset) =
      some
        { path := ["", "receipts"]
          parameters :=
            [("min_created", String.ofList (integerText second)), ("limit", "100"),
              ("offset", String.ofList (digits offset))] } := by
  rw [receiptsUrl_eq, target_urlOf]
  rfl

theorem target_lookupUrl (sku : Sku) :
    Http.Target.below? session.shopRoot (session.lookupUrl sku) =
      some { path := ["", "listings"], parameters := [("sku", sku.text)] } := by
  rw [lookupUrl_eq, target_urlOf]
  rfl

theorem target_listingsUrl :
    Http.Target.below? session.shopRoot session.listingsUrl =
      some { path := ["", "listings"], parameters := [] } := by
  rw [listingsUrl_eq, target_urlOf]
  rfl

theorem target_listingUrl (listingId : String) :
    Http.Target.below? session.shopRoot (session.listingUrl listingId) =
      some { path := ["", "listings", listingId], parameters := [] } := by
  rw [listingUrl_eq, target_urlOf]
  rfl

theorem target_imagesUrl (listingId : String) :
    Http.Target.below? session.shopRoot (session.imagesUrl listingId) =
      some { path := ["", "listings", listingId, "images"], parameters := [] } := by
  rw [imagesUrl_eq, target_urlOf]
  rfl

/-- The taxonomy is no resource of the shop. -/
theorem target_taxonomyUrl :
    Http.Target.below? session.shopRoot session.taxonomyUrl = none := by
  have hroot : session.shopRoot.toList.isPrefixOf? session.taxonomyUrl.toList = none := by
    rw [Option.eq_none_iff_forall_ne_some]
    intro rest hrest
    rw [List.isPrefixOf?_eq_some_iff_append_eq, shopRoot, taxonomyUrl] at hrest
    simp [String.toList_append] at hrest
  rw [Http.Target.below?, hroot, Option.bind_none]

end Session

/-! ### Sessions in force -/

theorem Adapter.runIn_withSession {adapter : Adapter} {session : Session}
    (h : adapter.session = .ok session) (world : World σ) (f : Session → Attempt α) (s : σ) :
    Attempt.runIn world (adapter.withSession f) s = Attempt.runIn world (f session) s := by
  rw [withSession, h]
  exact Attempt.runIn_bind_ok f rfl

/-- What comes to something with a session comes to it with the session of the adapter. -/
theorem Adapter.gives_withSession {α : Type} {adapter : Adapter} {f : Session → Attempt α}
    {t : List Answered} {a : α} (h : (adapter.withSession f).run.Gives t (.ok a)) :
    ∃ session, (f session).run.Gives t (.ok a) := by
  unfold withSession at h
  rw [Attempt.run_mk_pure_bind] at h
  cases hsession : adapter.session with
  | error e =>
    rw [hsession] at h
    obtain ⟨-, habsurd⟩ := Dialogue.gives_pure_iff.1 h
    cases habsurd
  | ok session =>
    rw [hsession] at h
    exact ⟨session, h⟩

/-- A configuration with all credentials. -/
def sampleConfig : Config where
  marketplace := .etsy
  accessToken := "token"
  apiKey := "key"
  shopId := "shop 1"

theorem session_sampleConfig :
    Adapter.session { config := some sampleConfig } = .ok (Session.ofConfig sampleConfig) := rfl

end ShopSync.Etsy
