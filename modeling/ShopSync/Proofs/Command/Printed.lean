import Mathlib.Tactic
import ShopSync.Command.Run
import ShopSync.Proofs.Dialogue
import ShopSync.Proofs.Json.Accept

/-!
What a run prints.

A report is printed as one document and a line break.  Whatever the task, every number of its data
is written as a numeral, so the text is read back as one tree, the tree of the document: an object
with the members `meta`, `data` and `errors`, in this order.
-/

namespace ShopSync

namespace Json

/-! ### Values with numerals -/

namespace Value

@[simp]
theorem hasNumerals_string (s : String) : (string s).HasNumerals := trivial

@[simp]
theorem hasNumerals_bool (b : Bool) : (bool b).HasNumerals := trivial

@[simp]
theorem hasNumerals_object (ms : List (String × Value)) :
    (object ms).HasNumerals ↔ ∀ m ∈ ms, m.2.HasNumerals :=
  membersHaveNumerals_iff ms

theorem hasNumerals_ofNat (n : Nat) : (ofNat n).HasNumerals := Number.hasNumeral_integer n

theorem hasNumerals_ofReal (x : Number.Binary64) : (ofReal x).HasNumerals :=
  (Decoder.accepts_real x).numerals

theorem hasNumerals_ofList {f : α → Value} {as : List α} (h : ∀ a, (f a).HasNumerals) :
    (ofList f as).HasNumerals := by
  refine (elementsHaveNumerals_iff _).2 ?_
  rintro _ hv
  obtain ⟨a, -, rfl⟩ := List.mem_map.1 hv
  exact h a

/-! ### Sorted values -/

theorem sortedMembers_eq (ms : List (String × Value)) :
    sortedMembers ms = ms.map fun m => (m.1, m.2.sorted) := by
  induction ms with
  | nil => rfl
  | cons m ms ih =>
    obtain ⟨key, v⟩ := m
    rw [sortedMembers, ih, List.map_cons]

/-- The members of a sorted object are those it had, each sorted, in the order of their keys. -/
theorem exists_sorted_object (ms : List (String × Value)) :
    ∃ members, (object ms).sorted = .object members ∧
      members.Perm (ms.map fun m => (m.1, m.2.sorted)) ∧
      members.Pairwise fun a b => a.1 ≤ b.1 := by
  have htrans (a b c : String × Value) (hab : decide (a.1 ≤ b.1) = true)
      (hbc : decide (b.1 ≤ c.1) = true) : decide (a.1 ≤ c.1) = true := by
    rw [decide_eq_true_iff] at hab hbc ⊢
    exact String.le_trans hab hbc
  have htotal (a b : String × Value) : (decide (a.1 ≤ b.1) || decide (b.1 ≤ a.1)) = true := by
    rw [Bool.or_eq_true, decide_eq_true_iff, decide_eq_true_iff]
    exact String.le_total a.1 b.1
  refine ⟨_, rfl, ?_, ?_⟩
  · rw [← sortedMembers_eq]
    exact List.mergeSort_perm _ _
  · have hsorted := List.pairwise_mergeSort htrans htotal (sortedMembers ms)
    exact hsorted.imp fun h => decide_eq_true_iff.1 h

mutual
/-- Sorting changes no number. -/
theorem HasNumerals.sorted (v : Value) (h : v.HasNumerals) : v.sorted.HasNumerals := by
  cases v with
  | array vs => exact ElementsHaveNumerals.sorted vs h
  | object ms =>
    obtain ⟨members, hmembers, hperm, -⟩ := exists_sorted_object ms
    rw [hmembers, hasNumerals_object]
    intro m hm
    have hsorted := (membersHaveNumerals_iff _).1 (MembersHaveNumerals.sorted ms h)
    rw [sortedMembers_eq] at hsorted
    exact hsorted m (hperm.mem_iff.1 hm)
  | _ => exact h

theorem ElementsHaveNumerals.sorted (vs : List Value) (h : ElementsHaveNumerals vs) :
    ElementsHaveNumerals (sortedElements vs) := by
  cases vs with
  | nil => trivial
  | cons v vs => exact ⟨HasNumerals.sorted v h.1, ElementsHaveNumerals.sorted vs h.2⟩

theorem MembersHaveNumerals.sorted (ms : List (String × Value)) (h : MembersHaveNumerals ms) :
    MembersHaveNumerals (sortedMembers ms) := by
  cases ms with
  | nil => trivial
  | cons m ms =>
    obtain ⟨key, v⟩ := m
    exact ⟨HasNumerals.sorted v h.1, MembersHaveNumerals.sorted ms h.2⟩
end

end Value

end Json

open Json (Value Tree Layout)
open Json.Value (forall_mem_optionalMember hasNumerals_object hasNumerals_ofNat hasNumerals_ofReal
  hasNumerals_ofList hasNumerals_string)

/-! ### What is reported -/

theorem Interruption.hasNumerals_toJson (interruption : Interruption) :
    interruption.toJson.HasNumerals := by
  cases interruption <;> simp [toJson]

theorem ItemError.hasNumerals_toJson (e : ItemError) : e.toJson.HasNumerals := by
  simp [toJson]

theorem SyncResult.hasNumerals_toJson (result : SyncResult) : result.toJson.HasNumerals := by
  have herrors : (Value.ofList ItemError.toJson result.errors).HasNumerals :=
    hasNumerals_ofList ItemError.hasNumerals_toJson
  simp only [toJson, hasNumerals_object, List.forall_mem_append, forall_mem_optionalMember]
  refine ⟨⟨?always, ?completedAt⟩, ?interruption⟩
  case always =>
    simp [herrors, hasNumerals_ofNat, Uuid.toJson, MarketplaceId.toJson, Direction.toJson,
      SyncStatus.toJson, Timestamp.toJson]
  case completedAt => exact fun t _ => hasNumerals_string t.text
  case interruption => exact fun interruption _ => interruption.hasNumerals_toJson

theorem OrderItem.hasNumerals_toJson (item : OrderItem) : item.toJson.HasNumerals := by
  simp [toJson, hasNumerals_ofNat, hasNumerals_ofReal]

theorem Order.hasNumerals_toJson (order : Order) : order.toJson.HasNumerals := by
  have hitems : (Value.ofList OrderItem.toJson order.items).HasNumerals :=
    hasNumerals_ofList OrderItem.hasNumerals_toJson
  simp [toJson, hitems, hasNumerals_ofReal, MarketplaceId.toJson, Timestamp.toJson]

theorem OrderImport.hasNumerals_toJson (i : OrderImport) : i.toJson.HasNumerals := by
  have horders : (Value.ofList Order.toJson i.newOrders).HasNumerals :=
    hasNumerals_ofList Order.hasNumerals_toJson
  simp [toJson, horders, hasNumerals_ofNat, SyncResult.hasNumerals_toJson, Timestamp.toJson]

theorem MarketplaceStatus.hasNumerals_toJson (s : MarketplaceStatus) : s.toJson.HasNumerals := by
  have hcapabilities : (Value.ofList Value.string s.capabilities).HasNumerals :=
    hasNumerals_ofList hasNumerals_string
  simp only [toJson, hasNumerals_object, List.forall_mem_append, forall_mem_optionalMember]
  refine ⟨⟨⟨?always, ?lastSync⟩, ?lastSyncStatus⟩, ?productCount⟩
  case always => simp [hcapabilities, MarketplaceId.toJson]
  case lastSync => exact fun t _ => hasNumerals_string t.text
  case lastSyncStatus => exact fun status _ => hasNumerals_string status.name
  case productCount => simp [hasNumerals_ofNat]

theorem Category.hasNumerals_toJson (category : Category) : category.toJson.HasNumerals := by
  simp only [toJson, hasNumerals_object, List.forall_mem_append, forall_mem_optionalMember]
  refine ⟨?always, ?parentId⟩
  case always => simp
  case parentId => exact fun id _ => hasNumerals_string id

namespace Command

theorem Report.hasNumerals_ofFanOut {α : Type} {f : α → Value} {outcomes : FanOut α}
    (h : ∀ a, (f a).HasNumerals) : (Report.ofFanOut f outcomes).data.HasNumerals := by
  refine (hasNumerals_object _).2 fun m hm => ?_
  obtain ⟨⟨id, outcome⟩, -, hfound⟩ := List.mem_filterMap.1 hm
  obtain ⟨a, -, rfl⟩ := Option.map_eq_some_iff.1 hfound
  exact h a

/-! ### Tasks -/

section Tasks

variable {α : Type}

/-- Every number that comes of the step of a task has a numeral, whatever the answers are. -/
def ReportsNumerals (x : TaskM Report) : Prop :=
  ∀ ⦃service t report after⦄, (x.run.run service).Gives t (.ok report, after) →
    report.data.HasNumerals

theorem reportsNumerals_pure {report : Report} (h : report.data.HasNumerals) :
    ReportsNumerals (pure report) := by
  intro service t found after hgives
  obtain ⟨-, heq⟩ := Dialogue.gives_pure_iff.1 hgives
  cases heq
  exact h

/-- The last step of a task decides. -/
theorem reportsNumerals_bind {x : TaskM α} {f : α → TaskM Report}
    (hf : ∀ a, ReportsNumerals (f a)) : ReportsNumerals (x >>= f) := by
  intro service t report after hgives
  rw [ExceptT.run_bind, StateT.run_bind] at hgives
  obtain ⟨⟨first, next⟩, t₁, t₂, rfl, -, h₂⟩ := Dialogue.gives_bind_iff.1 hgives
  cases first with
  | error cause =>
    obtain ⟨-, heq⟩ := Dialogue.gives_pure_iff.1 h₂
    cases heq
  | ok a => exact hf a h₂

theorem reportsNumerals_ofFanOut {x : TaskM (FanOut α)} {f : α → Value}
    {warnings : FanOut α → List String} (h : ∀ a, (f a).HasNumerals) :
    ReportsNumerals (x >>= fun outcomes => pure
      { Report.ofFanOut f outcomes with warnings := warnings outcomes }) :=
  reportsNumerals_bind fun _ => reportsNumerals_pure (Report.hasNumerals_ofFanOut h)

/-- Every number that a task reports has a numeral. -/
theorem reportsNumerals_carryOut (signal : Signal) (task : Task) :
    ReportsNumerals (carryOut signal task) := by
  cases task with
  | status =>
    refine reportsNumerals_bind fun statuses => reportsNumerals_pure ?_
    have hstatuses : (Value.ofList MarketplaceStatus.toJson statuses).HasNumerals :=
      hasNumerals_ofList MarketplaceStatus.hasNumerals_toJson
    simpa [statusReport] using hstatuses
  | exportProducts path chosen =>
    refine reportsNumerals_bind fun _ => reportsNumerals_ofFanOut ?_
    exact SyncResult.hasNumerals_toJson
  | importOrders since chosen =>
    cases since with
    | none =>
      refine reportsNumerals_bind fun _ => reportsNumerals_ofFanOut ?_
      exact OrderImport.hasNumerals_toJson
    | some text =>
      refine reportsNumerals_bind fun _ => ?_
      refine reportsNumerals_bind fun _ => reportsNumerals_ofFanOut ?_
      exact OrderImport.hasNumerals_toJson
  | stock sku quantity chosen =>
    refine reportsNumerals_bind fun sku => reportsNumerals_ofFanOut fun _ => ?_
    simp [Sku.toJson, hasNumerals_ofNat]
  | price sku price chosen =>
    refine reportsNumerals_bind fun sku => reportsNumerals_ofFanOut fun _ => ?_
    simp [Sku.toJson, hasNumerals_ofReal]
  | delete sku id =>
    refine reportsNumerals_bind fun sku => reportsNumerals_ofFanOut fun _ => ?_
    simp [Sku.toJson]
  | categories id =>
    refine reportsNumerals_ofFanOut fun categories => ?_
    have hcategories : (Value.ofList Category.toJson categories).HasNumerals :=
      hasNumerals_ofList Category.hasNumerals_toJson
    simp [hcategories, hasNumerals_ofNat]
  | ship orderId carrier trackingCode id =>
    refine reportsNumerals_ofFanOut fun _ => ?_
    simp [Shipment.toJson]
  | orderStatus orderId status id =>
    refine reportsNumerals_ofFanOut fun _ => ?_
    simp
  | history id limit =>
    refine reportsNumerals_bind fun results => reportsNumerals_pure ?_
    have hresults : (Value.ofList SyncResult.toJson results).HasNumerals :=
      hasNumerals_ofList SyncResult.hasNumerals_toJson
    simp [hresults, MarketplaceId.toJson]

end Tasks

/-! ### The document -/

/-- An error as it stands in a document: what is not known of it is left out. -/
def ReportError.entry (e : ReportError) : Value :=
  .object
    ([("code", .string e.code), ("message", .string e.message)]
      ++ (match e.marketplace with
        | none => []
        | some id => [("marketplace", .string id.tag)])
      ++ (match e.retryable with
        | none => []
        | some retryable => [("retryable", .bool retryable)]))

theorem ReportError.toJson_eq (e : ReportError) : e.toJson = e.entry := by
  cases e with
  | mk code message marketplace retryable =>
    cases marketplace <;> cases retryable <;> rfl

theorem ReportError.hasNumerals_entry (e : ReportError) : e.entry.HasNumerals := by
  cases e with
  | mk code message marketplace retryable =>
    cases marketplace <;> cases retryable <;> simp [entry]

/-- The text is the document of a command and its report with a line break behind it.  The document
is an object of three members: `meta` says which run of which command it is about, `data` holds what
came of it, with the members of every object in the order of their keys, and `errors` lists what
failed. -/
def Prints (text : String) (pretty : Bool) (command : String) (report : Report) : Prop :=
  ∃ (requestId : Uuid) (generatedAt : Timestamp) (latencyMs : Nat),
    let document : Value := .object
      [("meta", .object
          [("request_id", .string requestId.text), ("schema_version", .string "v1"),
            ("command", .string command), ("generated_at", .string generatedAt.text),
            ("latency_ms", .number (.integer latencyMs)),
            ("warnings", .array (report.warnings.map .string))]),
        ("data", report.data.sorted), ("errors", .array (report.errors.map ReportError.entry))]
    text = (if pretty then document.renderIndented else document.render) ++ "\n"

namespace Envelope

theorem prints_text (envelope : Envelope) (pretty : Bool) :
    Prints (envelope.text pretty) pretty envelope.command envelope.report := by
  refine ⟨envelope.requestId, envelope.generatedAt, envelope.latencyMs, ?_⟩
  have herrors : envelope.report.errors.map ReportError.toJson =
      envelope.report.errors.map ReportError.entry :=
    List.map_congr_left fun e _ => e.toJson_eq
  rw [← herrors]
  rfl

end Envelope

theorem parse?_rendered {v : Value} (h : v.HasNumerals) (pretty : Bool) :
    Tree.parse? ((if pretty then v.renderIndented else v.render) ++ "\n") = some v.spelling := by
  have hbreak : ['\n'].all Json.isGap = true := rfl
  cases pretty with
  | true =>
    have hparse := Tree.parse?_write_append Layout.isPlain_indented 0 h hbreak
    rwa [String.ofList_append] at hparse
  | false =>
    have hparse := Tree.parse?_write_append Layout.isPlain_compact 0 h hbreak
    rwa [String.ofList_append] at hparse

/-- A printed text is read as one tree, and nothing but a line break is left over. -/
theorem Prints.parse? {text command : String} {pretty : Bool} {report : Report}
    (h : Prints text pretty command report) (hdata : report.data.HasNumerals) :
    ∃ header, Tree.parse? text = some (.object
      [(some "meta", .object header), (some "data", report.data.sorted.spelling),
        (some "errors", .array (report.errors.map fun e => e.entry.spelling))]) := by
  obtain ⟨requestId, generatedAt, latencyMs, rfl⟩ := h
  have hwarnings : (Value.ofList Value.string report.warnings).HasNumerals :=
    hasNumerals_ofList hasNumerals_string
  have herrors : (Value.ofList ReportError.entry report.errors).HasNumerals :=
    hasNumerals_ofList ReportError.hasNumerals_entry
  have hlatency := hasNumerals_ofNat latencyMs
  have hsorted := Value.HasNumerals.sorted _ hdata
  have hspelled := Value.spelling_ofList ReportError.entry report.errors
  simp only [Value.ofList, Value.ofNat] at hwarnings herrors hlatency hspelled
  rw [parse?_rendered]
  · rw [Value.spelling, Json.memberSpellings, Json.memberSpellings, Json.memberSpellings,
      Json.memberSpellings, hspelled]
    exact ⟨_, rfl⟩
  · simp [hwarnings, herrors, hlatency, hsorted]

end Command

end ShopSync
