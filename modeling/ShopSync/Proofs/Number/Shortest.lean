import Mathlib.Tactic
import ShopSync.Number.Shortest
import ShopSync.Proofs.Number.Binary64

/-!
Bounds of shortest numerals.

The shortest numeral of a number lies in the interval of the number, so it is positive and no
larger than the upper end.  For all but the last two finite numbers that end is far enough below
the overflow for two more roundings.
-/

namespace ShopSync.Number

open Binary64 (units significand doublings unitsPerOne overflow)

/-! ### The ends of an interval -/

section Ends

variable {index : Nat}

/-- An index as its spacing and its significand, which is less than a binade only where the
spacing is the smallest. -/
theorem significand_spec (index : Nat) :
    significand index + doublings index * binade = index ∧ significand index < 2 * binade ∧
      (doublings index = 0 ∨ binade ≤ significand index) := by
  have hdivision : binade * (index / binade) + index % binade = index := Nat.div_add_mod _ _
  have hrest : index % binade < binade := Nat.mod_lt _ (by decide)
  unfold significand doublings
  rcases Nat.eq_zero_or_pos (index / binade) with hzero | hone
  · rw [hzero, Nat.mul_zero] at hdivision
    rw [hzero, Nat.zero_sub, Nat.zero_mul]
    omega
  · obtain ⟨k, hk⟩ : ∃ k, index / binade = k + 1 := Nat.exists_eq_add_of_le' hone
    have hsplit : binade * (k + 1) = k * binade + binade := by ring
    rw [hk, hsplit] at hdivision
    rw [hk, Nat.add_sub_cancel]
    omega

theorem significand_pos (h : 0 < index) : 0 < significand index := by
  obtain ⟨hsum, -, hzero | hlarge⟩ := significand_spec index
  · rw [hzero, Nat.zero_mul] at hsum
    omega
  · exact Nat.lt_of_lt_of_le (by decide) hlarge

theorem low_intervalAt_pos (h : 0 < index) : 0 < (intervalAt index).low := by
  have hsignificand : 0 < significand index := significand_pos h
  have hstep : 0 < Nat.pow 2 (doublings index) := Nat.two_pow_pos _
  have hcentre : Nat.pow 2 (doublings index) ≤
      significand index * Nat.pow 2 (doublings index) := Nat.le_mul_of_pos_left _ hsignificand
  unfold intervalAt
  dsimp only
  split <;> omega

theorem high_intervalAt (index : Nat) :
    (intervalAt index).high = (4 * significand index + 2) * 2 ^ doublings index := by
  change 4 * (significand index * 2 ^ doublings index) + 2 * 2 ^ doublings index = _
  ring

/-- Up to the third finite number from the end, the upper end of the interval stays this far below
the overflow, which is `(2 ^ 55 - 2) * 2 ^ 2045` quarters. -/
theorem high_intervalAt_le (h : index + 3 ≤ indexLimit) :
    (intervalAt index).high ≤ (2 ^ 55 - 10) * 2 ^ (2044 + 1) := by
  have hgeneral {k m e : Nat} (hindex : m + k * binade + 3 ≤ (e + 3) * binade)
      (hm : m < 2 * binade) (hnormal : k = 0 ∨ binade ≤ m) :
      (4 * m + 2) * 2 ^ k ≤ (2 ^ 55 - 10) * 2 ^ (e + 1) := by
    have hbinade : binade = 4503599627370496 := rfl
    rcases Nat.lt_or_ge e k with hlt | hge
    · -- in the last binade the distance from the end counts
      have hk : k = e + 1 := by
        have hm' : binade ≤ m := hnormal.resolve_left (by omega)
        have hfit : k * binade < (e + 2) * binade := by
          have hsplit : (e + 3) * binade = (e + 2) * binade + binade := by ring
          omega
        have := Nat.lt_of_mul_lt_mul_right hfit
        omega
      have hsplit : (e + 3) * binade = (e + 1) * binade + 2 * binade := by ring
      rw [hk] at hindex ⊢
      exact Nat.mul_le_mul_right _ (by omega)
    · calc (4 * m + 2) * 2 ^ k ≤ (4 * m + 2) * 2 ^ e :=
            Nat.mul_le_mul_left _ (Nat.pow_le_pow_right (by decide) hge)
        _ ≤ ((2 ^ 55 - 10) * 2) * 2 ^ e := Nat.mul_le_mul_right _ (by omega)
        _ = (2 ^ 55 - 10) * 2 ^ (e + 1) := by ring
  obtain ⟨hsum, hlt, hnormal⟩ := significand_spec index
  rw [high_intervalAt]
  refine @hgeneral _ _ 2044 ?_ hlt hnormal
  rw [hsum]
  exact h

end Ends

/-! ### What an interval contains -/

namespace Interval

variable {interval : Interval} {n : Nat} {exponent : Int}

theorem le_of_contains (h : interval.contains n exponent = true) :
    interval.low * (scales exponent).2 ≤ n * (scales exponent).1 ∧
      n * (scales exponent).1 ≤ interval.high * (scales exponent).2 := by
  unfold contains at h
  dsimp only at h
  split at h
  · simpa only [Bool.and_eq_true, decide_eq_true_eq] using h
  · simp only [Bool.and_eq_true, decide_eq_true_eq] at h
    exact ⟨h.1.le, h.2.le⟩

theorem pos_of_contains (hlow : 0 < interval.low) (h : interval.contains n exponent = true) :
    0 < n := by
  have hscale : 0 < (scales exponent).2 := by
    unfold scales
    split
    · exact Nat.one_pos
    · exact Nat.pow_pos (by decide)
  have hpos : 0 < n * (scales exponent).1 :=
    (Nat.mul_pos hlow hscale).trans_le (le_of_contains h).1
  exact Nat.pos_of_mul_pos_right hpos

/-- The leading digits of a numeral, with what is left out as zeros, are below the upper end. -/
theorem mul_perOne_le_high (h : interval.contains n exponent = true) {word left power : Nat}
    (hword : word * 10 ^ left ≤ n) (hpower : exponent + left = power) :
    word * 10 ^ power * perOne ≤ interval.high := by
  have hhigh := (le_of_contains h).2
  unfold scales at hhigh
  split at hhigh
  · obtain ⟨e, rfl⟩ : ∃ e : Nat, exponent = e := ⟨exponent.toNat, by omega⟩
    have hsplit : power = left + e := by omega
    dsimp only at hhigh
    rw [Nat.pow_eq, Int.toNat_natCast, Nat.mul_one] at hhigh
    calc word * 10 ^ power * perOne = word * 10 ^ left * (perOne * 10 ^ e) := by rw [hsplit]; ring
      _ ≤ n * (perOne * 10 ^ e) := Nat.mul_le_mul_right _ hword
      _ ≤ interval.high := hhigh
  · obtain ⟨e, rfl⟩ : ∃ e : Nat, exponent = -e := ⟨(-exponent).toNat, by omega⟩
    have hsplit : left = power + e := by omega
    dsimp only at hhigh
    rw [Nat.pow_eq, Int.neg_neg, Int.toNat_natCast] at hhigh
    apply Nat.le_of_mul_le_mul_right _ (show 0 < 10 ^ e from Nat.pow_pos (by decide))
    calc word * 10 ^ power * perOne * 10 ^ e = word * 10 ^ left * perOne := by rw [hsplit]; ring
      _ ≤ n * perOne := Nat.mul_le_mul_right _ hword
      _ ≤ interval.high * 10 ^ e := hhigh

theorem contains_of_nearest? {tie : Tie} (h : interval.nearest? tie exponent = some n) :
    interval.contains n exponent = true := by
  unfold nearest? at h
  dsimp only at h
  split at h
  case h_1 => cases h
  case h_2 hbelow _ =>
    cases h
    exact hbelow
  case h_3 _ habove =>
    cases h
    exact habove
  case h_4 hbelow habove =>
    split at h
    · cases h
      exact hbelow
    · split at h
      · cases h
        exact habove
      · cases h
        -- a tie is broken towards one of the two neighbours
        cases tie with
        | upward => exact habove
        | toEven =>
          unfold Tie.pick
          dsimp only
          rcases Nat.mod_two_eq_zero_or_one
            (interval.centre * (scales exponent).2 / (scales exponent).1) with heven | hodd
          · rwa [heven, Nat.add_zero]
          · rwa [hodd]

end Interval

/-- The shortest numeral is in the interval of the number; where none is found it is zero. -/
theorem contains_shortest (tie : Tie) (index : Nat) :
    shortest tie index = { digits := 0, exponent := 0 } ∨
      (intervalAt index).contains (shortest tie index).digits (shortest tie index).exponent =
        true := by
  unfold shortest
  dsimp only
  cases hfound : (List.range 24).findSome? fun (i : Nat) =>
      ((intervalAt index).nearest? tie (topExponent index - i)).map fun digits =>
        ({ digits, exponent := topExponent index - i } : Numeral) with
  | none => exact .inl rfl
  | some numeral =>
    obtain ⟨i, -, hi⟩ := List.exists_of_findSome?_eq_some hfound
    obtain ⟨n, hn, rfl⟩ := Option.map_eq_some_iff.1 hi
    exact .inr (Interval.contains_of_nearest? hn)

end ShopSync.Number
