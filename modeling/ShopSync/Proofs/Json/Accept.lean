import Mathlib.Tactic
import ShopSync.Proofs.Json.Legible
import ShopSync.Proofs.Json.Restore

/-!
Decoders that accept what is written.

A numeral need not stand for the number it was written for, so a document that is read back may
hold other numbers.  `Decoder.Accepts` says that every number of a value has a numeral, and when a
decoder has an answer for what is then read.  What is restored is accepted, and records
and lists are accepted part by part.
-/

namespace ShopSync.Json.Decoder

open ShopSync.Number (Binary64)

variable {α β : Type} {d : Decoder α} {depth : Nat} {v : Value} {a : α} {p : Prop}

/-- Every number of the value has a numeral, and with `depth` levels of nesting left or more the
decoder has an answer for what the value spells under a condition. -/
structure Accepts (d : Decoder α) (depth : Nat) (v : Value) (p : Prop) : Prop where
  numerals : v.HasNumerals
  reads : ∀ room, depth ≤ room → ((d room v.spelling).isSome ↔ p)

/-- The decoder has an answer for the text of the value, in any plain layout, under that
condition. -/
theorem Accepts.isSome_decode?_write (h : d.Accepts depth v p) (hdepth : depth ≤ depthLimit)
    {layout : Layout} (hlayout : layout.IsPlain) (level : Nat) :
    (decode? d (String.ofList (v.write layout level))).isSome ↔ p := by
  rw [decode?, Tree.parse?_write_spelling hlayout level h.numerals, Option.bind_some]
  exact h.reads depthLimit hdepth

theorem Restores.accepts (h : d.Restores depth v a) : d.Accepts depth v True := by
  obtain ⟨hnumerals, hspelling⟩ := Value.Readable.spelling v h.readable
  refine ⟨hnumerals, ?_⟩
  intro room hroom
  rw [hspelling, h.reads room hroom]
  exact iff_of_true rfl trivial

/-- What stands inside a value is read with one level of nesting less. -/
theorem accepts_succ (hnumerals : v.HasNumerals)
    (h : ∀ room, depth ≤ room → ((d (room + 1) v.spelling).isSome ↔ p)) :
    d.Accepts (depth + 1) v p where
  numerals := hnumerals
  reads room hroom := by
    cases room with
    | zero => exact absurd hroom (Nat.not_succ_le_zero depth)
    | succ room => exact h room (Nat.le_of_succ_le_succ hroom)

/-- A floating-point number is accepted when it is finite; for any other null is written. -/
theorem accepts_real (x : Binary64) : real.Accepts 0 (.ofReal x) (x.isFinite = true) := by
  by_cases hfinite : x.isFinite = true
  · obtain ⟨n, hn⟩ : ∃ n, (Number.real x).reread? = some n :=
      Option.isSome_iff_exists.1 (Number.isSome_reread? hfinite)
    rw [Value.ofReal, if_pos hfinite]
    refine ⟨Number.hasNumeral_of_reread? hn, fun room _ => iff_of_true ?_ hfinite⟩
    rw [Value.spelling, hn]
    rfl
  · rw [Value.ofReal, if_neg hfinite]
    exact ⟨trivial, fun _ _ => iff_of_false Bool.false_ne_true hfinite⟩

/-! ### Lists -/

theorem isSome_mapM_iff (g : β → Option α) (bs : List β) :
    (bs.mapM g).isSome ↔ ∀ b ∈ bs, (g b).isSome := by
  induction bs with
  | nil => simp
  | cons b bs ih =>
    rw [List.mapM_cons, List.forall_mem_cons, ← ih]
    cases g b with
    | none => simp
    | some a => cases bs.mapM g <;> simp

theorem accepts_list {f : β → Value} {q : β → Prop} {bs : List β}
    (h : ∀ b ∈ bs, d.Accepts depth (f b) (q b)) :
    (list d).Accepts (depth + 1) (.ofList f bs) (∀ b ∈ bs, q b) := by
  apply accepts_succ
  · apply (elementsHaveNumerals_iff _).2
    intro v hv
    obtain ⟨b, hb, rfl⟩ := List.mem_map.1 hv
    exact (h b hb).numerals
  · intro room hroom
    rw [Value.spelling_ofList, list, isSome_mapM_iff, List.forall_mem_map]
    exact forall₂_congr fun b hb => (h b hb).reads room hroom

/-! ### Records -/

theorem isSome_bind_of_isSome {o : Option β} {f : β → Option α} (ho : o.isSome)
    (hf : ∀ b, (f b).isSome ↔ p) : (o.bind f).isSome ↔ p := by
  obtain ⟨b, rfl⟩ := Option.isSome_iff_exists.1 ho
  exact hf b

theorem isSome_bind_of_forall {o : Option β} {f : β → Option α} (ho : o.isSome ↔ p)
    (hf : ∀ b, (f b).isSome) : (o.bind f).isSome ↔ p := by
  rw [← ho]
  cases o with
  | none => exact Iff.rfl
  | some b => exact iff_of_true (hf b) rfl

/-- The fields that a written object gives for a record. -/
def Fields.ofWritten (names : List String) (room : Nat) (ms : List (String × Value)) : Fields where
  room
  found := (ms.map fun m => (m.1, m.2.spelling)).filter fun m => names.contains m.1

/-- A record is accepted from an object with distinct keys under the condition that it can be read
off its members. -/
theorem accepts_record {names : List String} {read : Fields → Option α}
    {ms : List (String × Value)} (hkeys : (ms.map Prod.fst).Nodup)
    (hnumerals : ∀ m ∈ ms, m.2.HasNumerals)
    (hread : ∀ room, depth ≤ room → ((read (Fields.ofWritten names room ms)).isSome ↔ p)) :
    (record names read).Accepts (depth + 1) (.object ms) p := by
  have hnodup : ((ms.map fun m => (m.1, m.2.spelling)).map Prod.fst).Nodup := by
    rw [List.map_map]
    exact hkeys
  have hspelled : memberSpellings ms = spelled (ms.map fun m => (m.1, m.2.spelling)) := by
    rw [memberSpellings_eq, spelled, List.map_map]
    rfl
  refine accepts_succ ((membersHaveNumerals_iff ms).2 hnumerals) ?_
  intro room hroom
  rw [Value.spelling, hspelled, record_object hnodup]
  exact hread room hroom

namespace Fields

variable {names : List String} {room : Nat} {ms : List (String × Value)} {name : String}

theorem get?_ofWritten (hname : names.contains name = true) (hget : Keyed.get? name ms = some v) :
    Keyed.get? name (ofWritten names room ms).found = some v.spelling := by
  rw [ofWritten, Keyed.get?_filter hname, Keyed.get?_map, hget, Option.map_some]

theorem required_ofWritten (hname : names.contains name = true) (h : d.Restores depth v a)
    (hget : Keyed.get? name ms = some v) (hroom : depth ≤ room) :
    (ofWritten names room ms).required name d = some a := by
  rw [required, get?_ofWritten hname hget, (Value.Readable.spelling v h.readable).2,
    Option.bind_some]
  exact h.reads room hroom

theorem withDefault_ofWritten (default : α) (hname : names.contains name = true)
    (h : d.Restores depth v a) (hget : Keyed.get? name ms = some v) (hroom : depth ≤ room) :
    (ofWritten names room ms).withDefault name default d = some a := by
  rw [withDefault, get?_ofWritten hname hget, (Value.Readable.spelling v h.readable).2]
  exact h.reads room hroom

theorem isSome_required_ofWritten (hname : names.contains name = true) (h : d.Accepts depth v p)
    (hget : Keyed.get? name ms = some v) (hroom : depth ≤ room) :
    ((ofWritten names room ms).required name d).isSome ↔ p := by
  rw [required, get?_ofWritten hname hget, Option.bind_some]
  exact h.reads room hroom

theorem isSome_withDefault_ofWritten (default : α) (hname : names.contains name = true)
    (h : d.Accepts depth v p) (hget : Keyed.get? name ms = some v) (hroom : depth ≤ room) :
    ((ofWritten names room ms).withDefault name default d).isSome ↔ p := by
  rw [withDefault, get?_ofWritten hname hget]
  exact h.reads room hroom

end Fields

end ShopSync.Json.Decoder
