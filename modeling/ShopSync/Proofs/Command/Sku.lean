import ShopSync.Command.Run
import ShopSync.Proofs.Etsy.Lookup
import ShopSync.Proofs.Etsy.Written
import ShopSync.Proofs.Json.Yield
import ShopSync.Proofs.Sku

/-!
SKUs as keys.

Whether a SKU comes from the command line or from a file, it is read from a text in the same way,
and texts that are the same once they are trimmed are the same SKU.  What a marketplace is asked for
and told is the text of a SKU as it is (`Etsy.SaysSkus`), and listings are compared with it as it
is, so the key on both sides is the same (`sku_normal_form`).
-/

namespace ShopSync

open Json (Decoder Layout Tree Value)

/-! ### Files of products -/

namespace Product

/-- The fields of a product in JSON. -/
def fieldNames : List String :=
  ["sku", "name", "description", "price", "quantity", "category_id", "images"]

/-- The text stands for the SKU of a product in the tree. -/
def NamedIn (tree : Tree) (text : String) : Prop :=
  ∃ room fs, Decoder.fields fieldNames room tree = some fs ∧
    Keyed.get? "sku" fs.found = some (.string (some text))

/-- The SKU of a product is the one that the text for it is read as. -/
theorem exists_namedIn {room : Nat} {tree : Tree} {product : Product}
    (h : decoder room tree = some product) :
    ∃ text, NamedIn tree text ∧ Sku.parse text = .ok product.sku := by
  obtain ⟨fs, hfields, hread⟩ := Option.bind_eq_some_iff.1 h
  obtain ⟨sku, hsku, hrest⟩ := Option.bind_eq_some_iff.1 hread
  obtain ⟨found, hfound, hdecoded⟩ := Option.bind_eq_some_iff.1 hsku
  obtain ⟨text, rfl, hparse⟩ := Sku.decoder_eq_some_iff.1 hdecoded
  have hsame : product.sku = sku := by
    -- the other fields do not change it
    simp only [Option.bind_eq_bind, Option.bind_eq_some_iff] at hrest
    obtain ⟨name, -, description, -, price, -, quantity, -, categoryId, -, images, -, hproduct⟩ :=
      hrest
    cases hproduct
    rfl
  exact ⟨text, ⟨room, fs, hfields, hfound⟩, hsame ▸ hparse⟩

theorem exists_namedIn_of_decode? {content : String} {products : List Product}
    (h : Decoder.decode? (Decoder.list decoder) content = some products) :
    ∃ trees, Tree.parse? content = some (.array trees) ∧ ∀ product ∈ products,
      ∃ tree ∈ trees, ∃ text, NamedIn tree text ∧ Sku.parse text = .ok product.sku := by
  obtain ⟨tree, htree, hlist⟩ := Option.bind_eq_some_iff.1 h
  cases tree with
  | array trees =>
    refine ⟨trees, htree, fun product hproduct => ?_⟩
    obtain ⟨tree, hmem, hfound⟩ := (Decoder.length_of_mapM_eq_some hlist).2 product hproduct
    exact ⟨tree, hmem, exists_namedIn hfound⟩
  | _ => cases hlist

end Product

/-! ### The command line -/

namespace Command

/-- The text that a task takes for a SKU. -/
def Task.skuText? : Task → Option String
  | stock text _ _ => some text
  | price text _ _ => some text
  | delete text _ => some text
  | _ => none

/-- The task with another text for its SKU. -/
def Task.withSkuText (text : String) : Task → Task
  | stock _ quantity chosen => stock text quantity chosen
  | price _ amount chosen => price text amount chosen
  | delete _ id => delete text id
  | task => task

section Tasks

variable {task : Task} {text : String}

theorem carryOut_of_parse_error (htext : task.skuText? = some text) {e : ValidationError}
    (h : Sku.parse text = .error e) (signal : Signal) :
    carryOut signal task = throw (.validation e) := by
  cases task <;> cases htext <;>
    · rw [carryOut, h]
      rfl

/-- It makes no difference how the SKU was spelled. -/
theorem carryOut_withSkuText (htext : task.skuText? = some text) {sku : Sku}
    (h : Sku.parse text = .ok sku) (signal : Signal) :
    carryOut signal task = carryOut signal (task.withSkuText sku.text) := by
  cases task <;> cases htext <;> rw [Task.withSkuText, carryOut, carryOut, h, sku.parse_text]

end Tasks

end Command

/-! ### What is sent -/

namespace Etsy

open Session

/-- The SKUs in a request are those of the call: in an address the server reads the text of one that
the call is for, and a body that is written to a listing names a product of the call by the text of
its SKU, when the call writes products at all. -/
structure SaysSkus (config : Config) (call : MarketCall) (request : Http.Request) : Prop where
  asked : ∀ target, Http.Target.below? (ofConfig config).shopRoot request.url = some target →
    ∀ text, ("sku", text) ∈ target.parameters → ∃ sku ∈ call.skus, text = sku.text
  told : WritesListing config request → ∃ body ms, request.body = some body ∧
    Value.parse? body = some (.object ms) ∧
    (Keyed.get? "sku" ms = none ↔ call.products = []) ∧
    ∀ v, Keyed.get? "sku" ms = some v → ∃ product ∈ call.products,
      v = .array [.string product.sku.text]

/-- Only the address of a lookup has a SKU for a parameter. -/
theorem Resource.eq_lookup_of_mem_parameters {resource : Resource} {text : String}
    (h : ("sku", text) ∈ resource.parameters) : resource = .lookup text := by
  cases resource <;> simp [parameters] at h
  rw [h]

namespace Adapter

variable {σ : Type} {adapter : Adapter} {config : Config} {call : MarketCall}
variable {request : Http.Request}

theorem saysSkus (world : World σ) (hconfig : adapter.config = some config) (s : σ)
    (h : request ∈ requestsOf ((call.attempt adapter).run.queries world s)) :
    SaysSkus config call request where
  asked target htarget text htext := by
    cases made_of_mem_requestsOf world hconfig s h with
    | shop hmade =>
      rw [Http.Client.url_request, target_urlOf] at htarget
      cases htarget
      obtain rfl := Resource.eq_lookup_of_mem_parameters htext
      obtain ⟨sku, hsku, hsame⟩ := hmade.concerns.1
      exact ⟨sku, hsku, hsame.symm⟩
    | taxonomy _ =>
      rw [Http.Client.url_request, target_taxonomyUrl] at htarget
      cases htarget
  told hwrites := by
    obtain ⟨fields, hfields, hbody, hparse⟩ := exists_writes world hconfig s h hwrites
    refine ⟨_, _, hbody, hparse, ?_⟩
    rw [ListingFields.get?_sku]
    rcases hfields.product_or_neither with
      ⟨product, hproduct, -, hsku⟩ | ⟨hproducts, -, hsku⟩
    · rw [hsku]
      refine ⟨iff_of_false nofun (List.ne_nil_of_mem hproduct), ?_⟩
      rintro v ⟨⟩
      exact ⟨product, hproduct, rfl⟩
    · rw [hsku]
      exact ⟨iff_of_true rfl hproducts, nofun⟩

end Adapter

end Etsy

/-! ### Keys -/

open Command Etsy Etsy.Adapter

/-- **SKUs are normal forms.**  A text is read as a SKU exactly when what is left of it, without the
blanks around it, is something, of at most 64 characters, none of them a control character; two
texts are read as the same SKU exactly when the same is left of both.  So the text of every SKU is
of that kind, and it is read as the SKU again, as it is or through JSON, where there is no other way
to a SKU.  The products of a file have the SKUs that the texts in the file are read as, and a
command does the same for every spelling of a SKU, and nothing for a text that is none.  Whoever
answers: requests name SKUs by their texts, and the listing that is selected from an answer is found
by comparing with that text. -/
theorem sku_normal_form :
    (∀ input : String, Text.IsStripped input.toList (Text.trim input).toList ∧
      ((∃ sku, Sku.parse input = .ok sku) ↔ Sku.IsAcceptable (Text.trim input))) ∧
    (∀ input input' : String, (∃ sku, Sku.parse input = .ok sku ∧ Sku.parse input' = .ok sku) ↔
      Sku.IsAcceptable (Text.trim input) ∧ Text.trim input = Text.trim input') ∧
    (∀ sku : Sku, Sku.IsAcceptable sku.text ∧ Text.trim sku.text = sku.text ∧
      Sku.parse sku.text = .ok sku ∧ ∀ layout : Layout, layout.IsPlain → ∀ level,
        Decoder.decode? Sku.decoder (String.ofList (sku.toJson.write layout level)) = some sku) ∧
    (∀ text sku, Decoder.decode? Sku.decoder text = some sku ↔
      ∃ s, Tree.parse? text = some (.string (some s)) ∧ Sku.parse s = .ok sku) ∧
    (∀ content products, Decoder.decode? (Decoder.list Product.decoder) content = some products →
      ∃ trees, Tree.parse? content = some (.array trees) ∧ ∀ product ∈ products,
        ∃ tree ∈ trees, ∃ s, Product.NamedIn tree s ∧ Sku.parse s = .ok product.sku) ∧
    (∀ (signal : Signal) (task : Task) text, task.skuText? = some text →
      (∀ e, Sku.parse text = .error e → carryOut signal task = throw (.validation e)) ∧
      ∀ sku, Sku.parse text = .ok sku →
        carryOut signal task = carryOut signal (task.withSkuText sku.text)) ∧
    (∀ {σ : Type} (world : World σ) {adapter : Adapter} {config : Config},
      adapter.config = some config → ∀ (call : MarketCall) (s : σ),
        ∀ request ∈ requestsOf ((call.attempt adapter).run.queries world s),
          SaysSkus config call request) ∧
    ∀ (sku : Sku) listings id, selectListing (listings.map Listing.ofMembers) sku = some id ↔
      ∃ ms, Chosen sku listings ms id := by
  refine ⟨fun input => ⟨Text.isStripped_trim input, Sku.exists_parse_iff⟩, ?same,
    fun sku => ⟨sku.isAcceptable_text, sku.trim_text, sku.parse_text,
      fun layout hlayout level => sku.decode?_write hlayout level⟩,
    fun text sku => Sku.decode?_eq_some_iff,
    fun content products => Product.exists_namedIn_of_decode?,
    fun signal task text htext => ⟨fun e he => carryOut_of_parse_error htext he signal,
      fun sku hsku => carryOut_withSkuText htext hsku signal⟩,
    fun world _ _ hconfig call s request h => saysSkus world hconfig s h,
    fun sku listings id => selectListing_eq_some_iff⟩
  case same =>
    intro input input'
    rw [← Sku.exists_parse_iff]
    constructor
    · rintro ⟨sku, h, h'⟩
      exact ⟨⟨sku, h⟩, (Sku.parse_eq_ok_iff.1 h).symm.trans (Sku.parse_eq_ok_iff.1 h')⟩
    · rintro ⟨⟨sku, h⟩, hsame⟩
      exact ⟨sku, h, Sku.parse_eq_ok_iff.2 ((Sku.parse_eq_ok_iff.1 h).trans hsame)⟩

/-- A SKU that is spelled with blanks around it, the last of which is a control character: it is
stocked as it is without them, a file has it, and it is looked up and written without them. -/
theorem sku_normal_form_spelled :
    Sku.parse "\u3000MUG-01\t" = .ok wordyProduct.sku ∧
      carryOut { token := 0 } (.stock "\u3000MUG-01\t" 1 none) =
        carryOut { token := 0 } (.stock "MUG-01" 1 none) ∧
      Decoder.decode? Sku.decoder (String.ofList (wordyProduct.sku.toJson.write .compact 0)) =
        some wordyProduct.sku ∧
      ∃ requests, requests.length = 2 ∧
        requests = requestsOf (((MarketCall.updateProduct wordyProduct).attempt
          ({ config := some sampleConfig } : Adapter)).run.queries oneListing ⟨(), []⟩) ∧
        ∀ request ∈ requests,
          SaysSkus sampleConfig (.updateProduct wordyProduct) request := by
  have hread : Sku.parse "\u3000MUG-01\t" = .ok wordyProduct.sku := by decide
  obtain ⟨-, -, htext, -, -, hcommand, hrequests, -⟩ := sku_normal_form
  have hstock := (hcommand { token := 0 } (.stock "\u3000MUG-01\t" 1 none) _ rfl).2 _ hread
  have hwritten := (htext wordyProduct.sku).2.2.2 .compact Json.Layout.isPlain_compact 0
  refine ⟨hread, hstock, hwritten, _, ?_, rfl, hrequests oneListing rfl _ _⟩
  decide +kernel

end ShopSync
