import Mathlib.Tactic
import ShopSync.Proofs.Json.Record

/-!
Decoders against what is written.

`Decoder.Restores` says that a value can be written and that a decoder reads its tree as a given
answer, with some levels of nesting left.  It is shown for plain values, lists and records, part by
part, and holds of the text of the value in every plain layout.
-/

namespace ShopSync.Json.Decoder

open ShopSync.Number (Binary64)

variable {α β ε : Type} {d : Decoder α} {depth : Nat} {v : Value} {a : α}

/-- Every number of the value reads back, and with `depth` levels of nesting left or more the
decoder reads the value as `a`. -/
structure Restores (d : Decoder α) (depth : Nat) (v : Value) (a : α) : Prop where
  readable : v.Readable
  reads : ∀ room, depth ≤ room → d room v.toTree = some a

/-- The decoder reads the text of the value, in any plain layout, as the answer. -/
theorem Restores.decode?_write (h : d.Restores depth v a) (hdepth : depth ≤ depthLimit)
    {layout : Layout} (hlayout : layout.IsPlain) (level : Nat) :
    decode? d (String.ofList (v.write layout level)) = some a := by
  rw [decode?, Tree.parse?_write hlayout level h.readable, Option.bind_some,
    h.reads depthLimit hdepth]

/-- What stands inside a value is read with one level of nesting less. -/
theorem restores_succ (hreadable : v.Readable)
    (h : ∀ room, depth ≤ room → d (room + 1) v.toTree = some a) :
    d.Restores (depth + 1) v a where
  readable := hreadable
  reads room hroom := by
    cases room with
    | zero => exact absurd hroom (Nat.not_succ_le_zero depth)
    | succ room => exact h room (Nat.le_of_succ_le_succ hroom)

/-! ### Plain values -/

theorem restores_text (s : String) : text.Restores 0 (.string s) s where
  readable := trivial
  reads _ _ := rfl

theorem restores_choice {named : String → Option α} {s : String} (h : named s = some a) :
    (choice named).Restores 0 (.string s) a where
  readable := trivial
  reads _ _ := h

theorem restores_parsed {read : String → Except ε α} {s : String} (h : read s = .ok a) :
    (parsed read).Restores 0 (.string s) a where
  readable := trivial
  reads room _ := by
    change (read s).toOption = some a
    rw [h]
    rfl

theorem restores_natBelow {bound n : Nat} (hword : n < UInt64.size) (h : n < bound) :
    (natBelow bound).Restores 0 (.ofNat n) n where
  readable := Number.readsBack_ofNat hword
  reads room _ := by
    change (if (0 : Int) ≤ n ∧ (n : Int) < bound then some (n : Int).toNat else none) = some n
    rw [if_pos ⟨Int.natCast_nonneg n, by exact_mod_cast h⟩, Int.toNat_natCast]

theorem restores_count {n : Nat} (h : n < UInt64.size) : count.Restores 0 (.ofNat n) n :=
  restores_natBelow h h

theorem restores_uint32 (n : UInt32) : uint32.Restores 0 (.ofNat n.toNat) n := by
  have hword : n.toNat < UInt64.size := n.toNat_lt_size.trans (by decide)
  have h := restores_natBelow hword n.toNat_lt_size
  refine ⟨h.readable, ?_⟩
  intro room hroom
  rw [uint32, h.reads room hroom, Option.map_some, UInt32.ofNat_toNat]

theorem restores_real {x : Binary64} (hfinite : x.isFinite = true)
    (h : (Number.real x).ReadsBack) : real.Restores 0 (.ofReal x) x := by
  rw [Value.ofReal, if_pos hfinite]
  exact ⟨h, fun _ _ => rfl⟩

theorem Restores.nullable (h : d.Restores depth v a) (hv : v ≠ .null) :
    (nullable d).Restores depth v (some a) where
  readable := h.readable
  reads room hroom := by
    have hreads := h.reads room hroom
    cases v with
    | null => exact absurd rfl hv
    | _ => exact congrArg (Option.map some) hreads

/-! ### Lists -/

theorem mapM_map_eq_some {f : α → β} {g : β → Option α} {xs : List α}
    (h : ∀ x ∈ xs, g (f x) = some x) : (xs.map f).mapM g = some xs := by
  induction xs with
  | nil => rfl
  | cons x xs ih =>
    rw [List.map_cons, List.mapM_cons, h x List.mem_cons_self,
      ih fun y hy => h y (List.mem_cons_of_mem x hy)]
    rfl

theorem restores_list {f : α → Value} {as : List α} (h : ∀ a ∈ as, d.Restores depth (f a) a) :
    (list d).Restores (depth + 1) (.ofList f as) as := by
  apply restores_succ
  · apply (readableElements_iff _).2
    intro v hv
    obtain ⟨a, ha, rfl⟩ := List.mem_map.1 hv
    exact (h a ha).readable
  · intro room hroom
    rw [Value.ofList, Value.toTree, Value.treesOf_eq, list, List.map_map]
    exact mapM_map_eq_some fun a ha => (h a ha).reads room hroom

/-! ### Records -/

/-- The fields that an object gives for a record. -/
def Fields.ofMembers (names : List String) (room : Nat) (ms : List (String × Value)) : Fields where
  room
  found := (ms.map fun m => (m.1, m.2.toTree)).filter fun m => names.contains m.1

/-- A record is restored from an object with distinct keys when it is read off its members. -/
theorem restores_record {names : List String} {read : Fields → Option α}
    {ms : List (String × Value)} (hkeys : (ms.map Prod.fst).Nodup)
    (hreadable : ∀ m ∈ ms, m.2.Readable)
    (hread : ∀ room, depth ≤ room → read (Fields.ofMembers names room ms) = some a) :
    (record names read).Restores (depth + 1) (.object ms) a := by
  have hnodup : ((ms.map fun m => (m.1, m.2.toTree)).map Prod.fst).Nodup := by
    rw [List.map_map]
    exact hkeys
  refine restores_succ ((readableMembers_iff ms).2 hreadable) ?_
  intro room hroom
  rw [Value.toTree, memberTreesOf_eq_spelled, record_object hnodup]
  exact hread room hroom

namespace Fields

variable {names : List String} {room : Nat} {ms : List (String × Value)} {name : String}

theorem get?_ofMembers (hname : names.contains name = true) :
    Keyed.get? name (ofMembers names room ms).found = (Keyed.get? name ms).map Value.toTree := by
  rw [ofMembers, Keyed.get?_filter hname, Keyed.get?_map]

theorem required_ofMembers (hname : names.contains name = true) (h : d.Restores depth v a)
    (hget : Keyed.get? name ms = some v) (hroom : depth ≤ room) :
    (ofMembers names room ms).required name d = some a := by
  rw [required, get?_ofMembers hname, hget, Option.map_some, Option.bind_some]
  exact h.reads room hroom

theorem withDefault_ofMembers (default : α) (hname : names.contains name = true)
    (h : d.Restores depth v a) (hget : Keyed.get? name ms = some v) (hroom : depth ≤ room) :
    (ofMembers names room ms).withDefault name default d = some a := by
  rw [withDefault, get?_ofMembers hname, hget, Option.map_some]
  exact h.reads room hroom

/-- A member that is left out when there is nothing to say gives back what there was to say. -/
theorem optional_ofMembers {f : α → Value} {o : Option α} (hname : names.contains name = true)
    (h : ∀ a, o = some a → d.Restores depth (f a) a) (hnull : ∀ a, f a ≠ .null)
    (hget : Keyed.get? name ms = o.map f) (hroom : depth ≤ room) :
    (ofMembers names room ms).optional name d = some o := by
  cases o with
  | none =>
    rw [optional, withDefault, get?_ofMembers hname, hget]
    rfl
  | some a => exact withDefault_ofMembers none hname ((h a rfl).nullable (hnull a)) hget hroom

end Fields

end ShopSync.Json.Decoder
