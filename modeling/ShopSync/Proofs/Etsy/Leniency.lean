import ShopSync.Proofs.Etsy.Forest
import ShopSync.Proofs.Etsy.Identity
import ShopSync.Proofs.Json.Loose

/-!
Pages with fields of any type.

A text whose value is an object is read as a page, whatever its members hold, as long as neither of
the two keys of a page is repeated.  Every object among the results is an entry, and every object
among the transactions of a receipt is a line of its order.  A field without its shape is cleared,
and nothing else of the entry changes (`pages_are_read`).
-/

namespace ShopSync.Etsy

open Json (Value Decoder topKeys)
open Json.Loose (Members SameBut Lacks Shape LooseField elementsIn objectOf objects_eq identifierOf)
open Number (Binary64 integerText)

/-! ### Pages -/

theorem decode?_page {text : String} {ms : Members}
    (hvalue : Value.parse? text = some (.object ms))
    (honce : ∀ key ∈ ["count", "results"], (topKeys text).count (some key) ≤ 1) {α : Type}
    (entry : Members → α) :
    Decoder.decode? (Page.decoder entry) text =
      some
        { count := Json.Loose.integer ms "count"
          results := ((elementsIn ms "results").filterMap objectOf).map entry } := by
  obtain ⟨vs, hget, hread⟩ := Json.exists_values_of_parse? hvalue honce
  have hcount : Json.Loose.integer vs "count" = Json.Loose.integer ms "count" := by
    rw [Json.Loose.integer, hget "count" (by decide), Json.Loose.integer]
  have hresults : Json.Loose.objects vs "results" =
      (elementsIn ms "results").filterMap objectOf := by
    rw [Json.Loose.objects, hget "results" (by decide), ← objects_eq, Json.Loose.objects]
  rw [← hcount, ← hresults]
  have hdecode : (fun ms : Members => some
      { count := Json.Loose.integer ms "count"
        results := (Json.Loose.objects ms "results").map entry : Page α }) vs = some _ := rfl
  exact (hread _).trans hdecode

/-! ### Listings -/

/-- The fields of a listing. -/
def listingFields : List (LooseField Listing) :=
  [{ key := "listing_id", shape := .identifier, cleared := fun l => { l with id := none } },
    { key := "skus", shape := .array, cleared := fun l => { l with skus := [] } }]

theorem governs_listing : ∀ field ∈ listingFields, field.Governs Listing.ofMembers := by
  simp only [listingFields, List.forall_mem_cons]
  refine ⟨?listing_id, ?skus, List.forall_mem_nil _⟩ <;> intro ms ms' hsame hlacks <;>
    dsimp only at hsame hlacks ⊢
  case listing_id => simp [Listing.ofMembers, hsame.texts, hlacks.identifier]
  case skus => simp [Listing.ofMembers, hsame.identifier, hlacks.texts]

/-! ### Receipts -/

/-- The two numbers of an amount; one that is not told is zero. -/
def amountParts (ms : Members) : Int × Int :=
  ((Json.Loose.integer ms "amount").getD 0, (Json.Loose.integer ms "divisor").getD 0)

/-- The fields of an amount. -/
def amountFields : List (LooseField (Int × Int)) :=
  [{ key := "amount", shape := .whole, cleared := fun parts => (0, parts.2) },
    { key := "divisor", shape := .whole, cleared := fun parts => (parts.1, 0) }]

/-- The fields of a transaction. -/
def itemFields : List (LooseField OrderItem) :=
  [{ key := "transaction_id", shape := .identifier,
     cleared := fun item => { item with externalId := "" } },
    { key := "title", shape := .text, cleared := fun item => { item with name := "" } },
    { key := "quantity", shape := .whole, cleared := fun item => { item with quantity := 0 } },
    { key := "price", shape := .object,
      cleared := fun item => { item with price := Binary64.zero } }]

/-- The fields of a receipt. -/
def orderFields : List (LooseField Order) :=
  [{ key := "receipt_id", shape := .identifier,
     cleared := fun order => { order with externalId := "" } },
    { key := "status", shape := .text, cleared := fun order => { order with status := "" } },
    { key := "grandtotal", shape := .object,
      cleared := fun order => { order with total := Binary64.zero } },
    { key := "name", shape := .text, cleared := fun order => { order with customerName := "" } },
    { key := "formatted_address", shape := .text,
      cleared := fun order => { order with deliveryAddress := "" } },
    { key := "city", shape := .text, cleared := fun order => { order with deliveryCity := "" } },
    { key := "transactions", shape := .array, cleared := fun order => { order with items := [] } },
    { key := "create_timestamp", shape := .whole,
      cleared := fun order => { order with createdAt := Timestamp.epoch } }]

theorem amountOf_eq (ms : Members) :
    amountOf ms = Money.decimalOf (amountParts ms).1 (amountParts ms).2 := rfl

theorem governs_amount : ∀ field ∈ amountFields, field.Governs amountParts := by
  simp only [amountFields, List.forall_mem_cons]
  refine ⟨?amount, ?divisor, List.forall_mem_nil _⟩ <;> intro ms ms' hsame hlacks <;>
    dsimp only at hsame hlacks ⊢ <;> simp [amountParts, hsame.integer, hlacks.integer]

theorem governs_item : ∀ field ∈ itemFields, field.Governs itemOf := by
  simp only [itemFields, List.forall_mem_cons]
  refine ⟨?transaction_id, ?title, ?quantity, ?price, List.forall_mem_nil _⟩ <;>
    intro ms ms' hsame hlacks <;> dsimp only at hsame hlacks ⊢ <;> simp only [itemOf, amountIn]
  case transaction_id => simp [hsame.text, hsame.integer, hsame.object, hlacks.identifier]
  case title => simp [hsame.identifier, hsame.integer, hsame.object, hlacks.text]
  case quantity => simp [hsame.identifier, hsame.text, hsame.object, hlacks.integer]
  case price => simp [hsame.identifier, hsame.text, hsame.integer, hlacks.object]

theorem governs_order : ∀ field ∈ orderFields, field.Governs orderOf := by
  simp only [orderFields, List.forall_mem_cons]
  refine ⟨?receipt_id, ?status, ?grandtotal, ?name, ?formatted_address, ?city, ?transactions,
    ?create_timestamp, List.forall_mem_nil _⟩ <;>
    intro ms ms' hsame hlacks <;> dsimp only at hsame hlacks ⊢ <;>
    simp only [orderOf, amountIn, createdAt, createdSecond]
  case receipt_id =>
    simp [hsame.text, hsame.object, hsame.objects, hsame.integer, hlacks.identifier]
  case grandtotal =>
    simp [hsame.identifier, hsame.text, hsame.objects, hsame.integer, hlacks.object]
  case transactions =>
    simp [hsame.identifier, hsame.text, hsame.object, hsame.integer, hlacks.objects]
  case create_timestamp =>
    simp [hsame.identifier, hsame.text, hsame.object, hsame.objects, hlacks.integer]
  case status | name | formatted_address | city =>
    simp [hsame.identifier, hsame.text, hsame.object, hsame.objects, hsame.integer, hlacks.text]

/-! ### Taxonomy -/

/-- The fields of a node. -/
def nodeFields : List (LooseField TaxonomyNode) :=
  [{ key := "id", shape := .identifier
     cleared := fun | .node _ name parentId children => .node none name parentId children },
    { key := "name", shape := .text
      cleared := fun | .node id _ parentId children => .node id none parentId children },
    { key := "parent_id", shape := .identifier
      cleared := fun | .node id name _ children => .node id name none children },
    { key := "children", shape := .array
      cleared := fun | .node id name parentId _ => .node id name parentId [] }]

theorem nodesOf_eq (vs : List Value) :
    nodesOf vs = (vs.filterMap objectOf).map TaxonomyNode.ofMembers := by
  induction vs with
  | nil => rw [nodesOf, List.filterMap_nil, List.map_nil]
  | cons v vs ih =>
    cases v with
    | object ms =>
      rw [nodesOf, ih]
      rfl
    | _ =>
      rw [nodesOf, ih]
      · rfl
      · rintro ms ⟨⟩

/-- The nodes below a node are the objects among its children. -/
theorem childrenOf_eq (ms : Members) :
    childrenOf ms = (Json.Loose.objects ms "children").map TaxonomyNode.ofMembers := by
  induction ms with
  | nil =>
    rw [childrenOf]
    rfl
  | cons m ms ih =>
    obtain ⟨key, v⟩ := m
    rw [objects_eq, elementsIn, Keyed.get?]
    by_cases hkey : key = "children"
    · rw [if_pos hkey]
      cases v with
      | array vs => rw [childrenOf, if_pos hkey, nodesOf_eq]
      | _ =>
        rw [childrenOf, if_pos hkey]
        · rfl
        · rintro vs ⟨⟩
    · have hrest : childrenOf ((key, v) :: ms) = childrenOf ms := by
        cases v <;> rw [childrenOf, if_neg hkey] <;> rintro vs ⟨⟩
      rw [if_neg hkey, hrest, ih, objects_eq, elementsIn]

theorem governs_node : ∀ field ∈ nodeFields, field.Governs TaxonomyNode.ofMembers := by
  simp only [nodeFields, List.forall_mem_cons]
  refine ⟨?id, ?name, ?parent_id, ?children, List.forall_mem_nil _⟩ <;>
    intro ms ms' hsame hlacks <;> dsimp only at hsame hlacks ⊢ <;>
    simp only [TaxonomyNode.ofMembers, childrenOf_eq]
  case name => simp [hsame.identifier, hsame.objects, hlacks.text]
  case children => simp [hsame.identifier, hsame.text, hlacks.objects]
  case id | parent_id =>
    simp [hsame.identifier, hsame.text, hsame.objects, hlacks.identifier]

/-! ### Everything that is read -/

/-- **Pages with fields of any type.**  A text whose value is an object and that does not repeat the
two keys of a page is a page: every object among its results is an entry, in their order, whatever
is read of an entry.  An order has a line for every object among the transactions, and a node a node
below it for every object among its children.  A field that is missing or without its shape clears
its own part of what is read, and changes nothing else.  A whole number of 64 bits is the same
identifier as a number and as a text. -/
theorem pages_are_read {text : String} {ms : Members}
    (hvalue : Value.parse? text = some (.object ms))
    (honce : ∀ key ∈ ["count", "results"], (topKeys text).count (some key) ≤ 1) :
    (∀ {α : Type} (entry : Members → α), Decoder.decode? (Page.decoder entry) text =
      some
        { count := Json.Loose.integer ms "count"
          results := ((elementsIn ms "results").filterMap objectOf).map entry }) ∧
      (∀ receipt, (orderOf receipt).items =
        ((elementsIn receipt "transactions").filterMap objectOf).map itemOf) ∧
      (∀ node, (TaxonomyNode.ofMembers node).children =
        ((elementsIn node "children").filterMap objectOf).map TaxonomyNode.ofMembers) ∧
      (∀ amount, amountOf amount =
        Money.decimalOf (amountParts amount).1 (amountParts amount).2) ∧
      (∀ field ∈ listingFields, field.Governs Listing.ofMembers) ∧
      (∀ field ∈ orderFields, field.Governs orderOf) ∧
      (∀ field ∈ itemFields, field.Governs itemOf) ∧
      (∀ field ∈ amountFields, field.Governs amountParts) ∧
      (∀ field ∈ nodeFields, field.Governs TaxonomyNode.ofMembers) ∧
      ∀ n, IsInt64 n → identifierOf (.string (String.ofList (integerText n))) =
        identifierOf (.ofInt n) := by
  refine ⟨decode?_page hvalue honce, fun receipt => ?_, fun node => ?_, amountOf_eq,
    governs_listing, governs_order, governs_item, governs_amount, governs_node,
    fun n => Json.Loose.identifierOf_integerText⟩
  · rw [← objects_eq]
    rfl
  · rw [← objects_eq, ← childrenOf_eq]
    rfl

/-- A page with a count that is none, a key that is repeated, an entry that is no object, and two
receipts with one identifier, of which the first has a status that is none. -/
def looseReceipts : String :=
  "\x7b\"count\":[],\"x\":1,\"results\":[\"junk\",\x7b\"receipt_id\":\"42\",\"status\":null,"
    ++ "\"transactions\":[null,\x7b\"title\":7,\"quantity\":\" 2\"\x7d]\x7d,"
    ++ "\x7b\"receipt_id\":42,\"status\":\"paid\"\x7d],\"x\":2\x7d"

/-- What the sample tells of an order. -/
def Order.outline (order : Order) : String × String × List (String × UInt32) :=
  (order.externalId, order.status, order.items.map fun item => (item.name, item.quantity))

/-- The two receipts are read, with all that is right about them. -/
theorem pages_are_read_looseReceipts :
    ∃ ms, Value.parse? looseReceipts = some (.object ms) ∧
      (∀ key ∈ ["count", "results"], (topKeys looseReceipts).count (some key) ≤ 1) ∧
      ∃ page : Page Order, Decoder.decode? (Page.decoder orderOf) looseReceipts = some page ∧
        page.count = none ∧
        page.results.map Order.outline = [("42", "", [("7", 2)]), ("42", "paid", [])] := by
  have hobject : ((Value.parse? looseReceipts).bind objectOf).isSome = true := by decide +kernel
  obtain ⟨ms, hms⟩ := Option.isSome_iff_exists.1 hobject
  have hvalue : Value.parse? looseReceipts = some (.object ms) := by
    obtain ⟨v, hv, hmembers⟩ := Option.bind_eq_some_iff.1 hms
    cases v with
    | object ms' =>
      cases hmembers
      exact hv
    | _ => cases hmembers
  have honce : ∀ key ∈ ["count", "results"], (topKeys looseReceipts).count (some key) ≤ 1 := by
    decide +kernel
  have hread := (pages_are_read hvalue honce).1 orderOf
  have hcount : (Decoder.decode? (Page.decoder orderOf) looseReceipts).map Page.count =
      some none := by
    decide +kernel
  have hresults : (Decoder.decode? (Page.decoder orderOf) looseReceipts).map
      (fun page => page.results.map Order.outline) =
      some [("42", "", [("7", 2)]), ("42", "paid", [])] := by
    decide +kernel
  rw [hread, Option.map_some, Option.some.injEq] at hcount hresults
  exact ⟨ms, hvalue, honce, _, hread, hcount, hresults⟩

end ShopSync.Etsy
