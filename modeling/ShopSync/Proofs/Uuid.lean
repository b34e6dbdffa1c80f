import Mathlib.Tactic
import ShopSync.Uuid

/-!
Identifiers read back.

The digits of an identifier spell it, and no group of them looks like a brace or the name space in
front of which the other forms are recognised.
-/

namespace ShopSync.Uuid

open Json (lowerHex)
open Text.Percent (hexValue?)

/-! ### Digits -/

theorem hexValue?_lowerHex {n : Nat} (h : n < 16) : hexValue? (lowerHex n) = some n := by
  interval_cases n <;> decide

theorem ofHex?_append (cs ds : List Char) {n : Nat} (h : ofHex? cs = some n) :
    ofHex? (cs ++ ds) = ds.foldlM (fun n c => (hexValue? c).map (16 * n + ·)) n := by
  rw [ofHex?] at h ⊢
  rw [List.foldlM_append, h]
  rfl

theorem ofHex?_hexDigits (n width : Nat) : ofHex? (hexDigits n width) = some (n % 16 ^ width) := by
  induction width generalizing n with
  | zero =>
    rw [pow_zero, Nat.mod_one]
    rfl
  | succ width ih =>
    have hlast : hexValue? (lowerHex (n % 16)) = some (n % 16) :=
      hexValue?_lowerHex (Nat.mod_lt n (by decide))
    have hsplit : 16 * (n / 16 % 16 ^ width) + n % 16 = n % 16 ^ (width + 1) := by
      rw [Nat.pow_succ', Nat.mod_mul, Nat.add_comm]
    rw [hexDigits, ofHex?_append _ _ (ih (n / 16)), List.foldlM_cons, hlast, Option.map_some,
      hsplit]
    rfl

theorem length_hexDigits (n width : Nat) : (hexDigits n width).length = width := by
  induction width generalizing n with
  | zero => rfl
  | succ width ih => rw [hexDigits, List.length_append, ih, List.length_singleton]

theorem exists_of_mem_hexDigits {n width : Nat} {c : Char} (h : c ∈ hexDigits n width) :
    ∃ d < 16, c = lowerHex d := by
  induction width generalizing n with
  | zero => cases h
  | succ width ih =>
    rw [hexDigits, List.mem_append, List.mem_singleton] at h
    rcases h with h | rfl
    · exact ih h
    · exact ⟨n % 16, Nat.mod_lt n (by decide), rfl⟩

theorem lowerHex_ne {d : Nat} (h : d < 16) : lowerHex d ≠ '\x7b' ∧ (lowerHex d).toLower ≠ 'u' := by
  interval_cases d <;> decide

theorem ofDigits?_hexDigits (id : Uuid) : ofDigits? (hexDigits id.value.toNat 32) = some id := by
  have hvalue : id.value.toNat % 16 ^ 32 = id.value.toNat :=
    Nat.mod_eq_of_lt (by simpa using id.value.isLt)
  rw [ofDigits?, ofHex?_hexDigits, hvalue, Option.bind_eq_bind, Option.bind_some,
    if_pos (length_hexDigits _ 32), BitVec.ofNat_toNat, BitVec.setWidth_eq]
  rfl

/-! ### Groups -/

theorem exists_group {l : List Char} {n : Nat} (h : n ≤ l.length) :
    ∃ group rest, group.length = n ∧ l = group ++ rest :=
  ⟨l.take n, l.drop n, List.length_take_of_le h, (List.take_append_drop n l).symm⟩

theorem ungrouped_grouped {ds : List Char} (h : ds.length = 32) :
    (grouped ds).take 8 ++ ((grouped ds).drop 9).take 4 ++ ((grouped ds).drop 14).take 4 ++
      ((grouped ds).drop 19).take 4 ++ (grouped ds).drop 24 = ds := by
  obtain ⟨a, ds, ha, rfl⟩ := exists_group (l := ds) (n := 8) (by omega)
  rw [List.length_append] at h
  obtain ⟨b, ds, hb, rfl⟩ := exists_group (l := ds) (n := 4) (by omega)
  rw [List.length_append] at h
  obtain ⟨c, ds, hc, rfl⟩ := exists_group (l := ds) (n := 4) (by omega)
  rw [List.length_append] at h
  obtain ⟨d, ds, hd, rfl⟩ := exists_group (l := ds) (n := 4) (by omega)
  simp (disch := simp [ha, hb, hc, hd]) [grouped, List.drop_append, ha, hb, hc, hd,
    List.drop_eq_nil_of_le]

theorem length_grouped {ds : List Char} (h : ds.length = 32) : (grouped ds).length = 36 := by
  simp [grouped, h]

theorem ofGroups?_grouped {ds : List Char} (h : ds.length = 32) :
    ofGroups? (grouped ds) = ofDigits? ds := by
  rw [ofGroups?, ungrouped_grouped h]
  exact if_pos rfl

/-! ### Texts -/

/-- An identifier is what its text stands for. -/
theorem parse?_text (id : Uuid) : parse? id.text = some id := by
  have hlength : (hexDigits id.value.toNat 32).length = 32 := length_hexDigits _ 32
  obtain ⟨c, ds, hds⟩ : ∃ c ds, hexDigits id.value.toNat 32 = c :: ds :=
    List.exists_cons_of_length_pos (by rw [hlength]; decide)
  have hmem : c ∈ hexDigits id.value.toNat 32 := by
    rw [hds]
    exact List.mem_cons_self
  obtain ⟨d, hd, hc⟩ := exists_of_mem_hexDigits hmem
  obtain ⟨hbrace, hname⟩ := lowerHex_ne hd
  rw [← hc] at hbrace hname
  obtain ⟨rest, hrest⟩ : ∃ rest, grouped (hexDigits id.value.toNat 32) = c :: rest := by
    rw [hds]
    exact ⟨_, rfl⟩
  have hgrouped := length_grouped hlength
  have hgroups := ofGroups?_grouped hlength
  rw [hrest] at hgrouped hgroups
  have hspace : ¬((c :: rest).take nameSpace.length).map Char.toLower = nameSpace := by
    intro heq
    exact hname (List.cons.inj heq).1
  rw [parse?, text, String.toList_ofList, hrest]
  split
  next heq => exact absurd (List.cons.inj heq).1 hbrace
  next =>
    rw [if_neg hspace, if_neg (by rw [hgrouped]; decide), hgroups, ofDigits?_hexDigits]

end ShopSync.Uuid
