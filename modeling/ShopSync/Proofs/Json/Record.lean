import Mathlib.Tactic
import ShopSync.Proofs.Json.RoundTrip
import ShopSync.Text.Truncate

/-!
Records read from objects.

An object whose keys are distinct texts is read as a record: the members with a name of the record
are found, in their order, and the others are passed over.  What may be left out of an object has
one member or none.
-/

/-! ### Members that may be left out -/

namespace ShopSync.Json.Value

variable {α : Type} {key : String} {f : α → Value} {o : Option α}

theorem forall_mem_optionalMember {p : String × Value → Prop} :
    (∀ m ∈ optionalMember key f o, p m) ↔ ∀ a ∈ o, p (key, f a) := by
  cases o <;> simp [optionalMember]

theorem map_fst_optionalMember_sublist : ((optionalMember key f o).map Prod.fst).Sublist [key] := by
  cases o with
  | none => exact List.nil_sublist _
  | some a => exact List.Sublist.refl _

theorem get?_optionalMember (other : String) :
    Keyed.get? other (optionalMember key f o) = if key = other then o.map f else none := by
  cases o with
  | none => simp [optionalMember, Keyed.get?]
  | some a => simp only [optionalMember, Keyed.get?, Option.map_some]

theorem get?_optionalMember_append (other : String) (ms : List (String × Value)) :
    Keyed.get? other (optionalMember key f o ++ ms) =
      if key = other then (o.map f).or (Keyed.get? other ms) else Keyed.get? other ms := by
  cases o with
  | none => simp [optionalMember]
  | some a =>
    simp only [optionalMember, List.cons_append, List.nil_append, Keyed.get?, Option.map_some,
      Option.some_or]

end ShopSync.Json.Value

/-! ### Objects with distinct keys -/

namespace ShopSync.Json.Decoder

/-- The members of an object as a text spells them, when every key is a text. -/
def spelled (ms : List (String × Tree)) : List (Option String × Tree) :=
  ms.map fun m => (some m.1, m.2)

theorem memberTreesOf_eq_spelled (ms : List (String × Value)) :
    Value.memberTreesOf ms = spelled (ms.map fun m => (m.1, m.2.toTree)) := by
  rw [Value.memberTreesOf_eq, spelled, List.map_map]
  rfl

/-! ### Members -/

theorem knownMembers_spelled {names : List String} {ms : List (String × Tree)}
    (h : (ms.map Prod.fst).Nodup) :
    knownMembers names (spelled ms) = some (ms.filter fun m => names.contains m.1) := by
  induction ms with
  | nil => rfl
  | cons m ms ih =>
    obtain ⟨key, t⟩ := m
    rw [List.map_cons, List.nodup_cons] at h
    have hnew : Keyed.get? key (ms.filter fun m => names.contains m.1) = none := by
      apply Keyed.get?_eq_none_of_notMem
      intro hmem
      obtain ⟨m, hm, hkey⟩ := List.mem_map.1 hmem
      exact h.1 (List.mem_map.2 ⟨m, List.mem_of_mem_filter hm, hkey⟩)
    have hrest := ih h.2
    rw [spelled] at hrest ⊢
    rw [List.map_cons, knownMembers, hrest, Option.bind_eq_bind, Option.bind_some]
    simp only [hnew, Option.isSome_none, Bool.false_eq_true, if_false, List.filter_cons]
    split <;> rfl

/-- An object with distinct keys is read as the record of the members that have its names. -/
theorem record_object {names : List String} {read : Fields → Option α} {room : Nat}
    {ms : List (String × Tree)} (h : (ms.map Prod.fst).Nodup) :
    record names read (room + 1) (.object (spelled ms)) =
      read { room, found := ms.filter fun m => names.contains m.1 } := by
  rw [record, fields, knownMembers_spelled h]
  rfl

theorem decode?_record {names : List String} {read : Fields → Option α} {s : String}
    {ms : List (String × Tree)} (hparse : Tree.parse? s = some (.object (spelled ms)))
    (h : (ms.map Prod.fst).Nodup) :
    decode? (record names read) s =
      read { room := depthLimit - 1, found := ms.filter fun m => names.contains m.1 } := by
  obtain ⟨room, hroom⟩ : ∃ room, depthLimit = room + 1 := ⟨126, rfl⟩
  rw [decode?, hparse, Option.bind_some, hroom, record_object h, Nat.add_sub_cancel]

/-! ### Values of fields -/

namespace Fields

theorem exists_mapM_value {room : Nat} {found : List (String × Tree)}
    (h : ∀ m ∈ found, (m.2.value? room).isSome) :
    ∃ vs, (found.mapM fun (name, t) => (t.value? room).map (name, ·)) = some vs ∧
      ∀ key, Keyed.get? key vs = (Keyed.get? key found).bind (Tree.value? room) := by
  induction found with
  | nil => exact ⟨[], rfl, fun key => rfl⟩
  | cons m found ih =>
    obtain ⟨name, t⟩ := m
    have hsome : (t.value? room).isSome := h (name, t) List.mem_cons_self
    obtain ⟨v, hv⟩ := Option.isSome_iff_exists.1 hsome
    obtain ⟨vs, hvs, hget⟩ := ih fun m hm => h m (List.mem_cons_of_mem _ hm)
    refine ⟨(name, v) :: vs, ?_, ?_⟩
    · rw [List.mapM_cons, hvs]
      simp only [hv]
      rfl
    · intro key
      rw [Keyed.get?, Keyed.get?]
      split
      · rw [Option.bind_some, hv]
      · exact hget key

end Fields

end ShopSync.Json.Decoder

/-! ### Blank texts -/

namespace ShopSync.Json

open ShopSync.Text (isBlank isBlankText)

theorem toNat_of_isBlank {c : Char} (h : isBlank c = true) : c.toNat ≤ 0x20 ∨ 0x85 ≤ c.toNat := by
  simp only [isBlank, Bool.or_eq_true, Bool.and_eq_true, decide_eq_true_eq, beq_iff_eq] at h
  omega

theorem token?_of_isBlank {c : Char} (h : isBlank c = true) (rest : List Char) :
    token? c rest = none := by
  have hne (d : Char) (hd : isBlank d = false) : c ≠ d := by
    rintro rfl
    rw [h] at hd
    cases hd
  have hrange := toNat_of_isBlank h
  have hdigit : ¬Number.isDigit c = true := by
    intro hd
    simp only [Number.isDigit, Bool.and_eq_true, decide_eq_true_eq, Char.le_def,
      UInt32.le_iff_toNat_le] at hd
    change 0x30 ≤ c.toNat ∧ c.toNat ≤ 0x39 at hd
    omega
  have hword : ¬isWordChar c = true := by
    intro hw
    simp only [isWordChar, Bool.and_eq_true, decide_eq_true_eq, Char.le_def,
      UInt32.le_iff_toNat_le] at hw
    change 0x61 ≤ c.toNat ∧ c.toNat ≤ 0x7a at hw
    omega
  have hpunctuation : punctuation? c = none := by
    unfold punctuation?
    split <;> first
      | exact absurd rfl (hne _ (by decide))
      | rfl
  rw [token?, if_neg (hne '"' (by decide)), if_neg (by simp [hdigit, hne '-' (by decide)]),
    if_neg hword, hpunctuation, Option.map_none]

/-- A text of blanks spells no tree. -/
theorem Tree.parse?_of_isBlankText {s : String} (h : isBlankText s = true) :
    Tree.parse? s = none := by
  have hscan : ∀ cs : List Char, cs.all isBlank = true →
      scanFrom [] cs = some [] ∨ scanFrom [] cs = none := by
    intro cs hcs
    induction cs with
    | nil => exact Or.inl (by rw [scanFrom, List.reverse_nil])
    | cons c cs ih =>
      rw [List.all_cons, Bool.and_eq_true] at hcs
      rw [scanFrom]
      split
      · exact ih hcs.2
      · right
        split
        next ht => rw [token?_of_isBlank hcs.1] at ht; cases ht
        next => rfl
  rw [Tree.parse?, scan]
  rcases hscan s.toList h with heq | heq
  · rw [heq]
    rfl
  · rw [heq]
    rfl

end ShopSync.Json
