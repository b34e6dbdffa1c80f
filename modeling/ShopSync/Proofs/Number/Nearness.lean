import Mathlib.Tactic
import ShopSync.Proofs.Number.Shortest

/-!
Numbers as fractions, and how far rounding leads away from them.

A finite number is the fraction `toRat`.  A whole number of units is rounded to a number that lies
one part in `2 ^ 53` away from it at most (`abs_units_indexOf_sub_le`): in the smallest spacing it
is met exactly, and in every other one half a spacing is no more than that.  Rounding to a whole
number moves half of one further at most (`abs_roundAway_sub_le`).
-/

namespace ShopSync.Number.Binary64

/-- The fraction that a finite number is; zero for any other. -/
def toRat (x : Binary64) : ℚ := x.signedUnits / unitsPerOne

/-! ### Rounding to the nearest -/

section Rounding

variable {num den c m : Nat}

theorem le_roundToEven_mul (hden : 0 < den) :
    2 * num ≤ 2 * (den * roundToEven num den) + den := by
  have hdivision : den * (num / den) + num % den = num := Nat.div_add_mod num den
  have hrest : num % den < den := Nat.mod_lt num hden
  have hup : den * (num / den + 1) = den * (num / den) + den := Nat.mul_succ _ _
  unfold roundToEven
  dsimp only
  split
  · omega
  · split
    · omega
    · have hparity : den * (num / den) ≤ den * (num / den + num / den % 2) :=
        Nat.mul_le_mul_left den (Nat.le_add_right _ _)
      omega

theorem roundToEven_mul (hden : 0 < den) : roundToEven (c * den) den = c :=
  Nat.le_antisymm (roundToEven_le hden (Nat.le_refl _)) (le_roundToEven hden (Nat.le_refl _))

/-- A whole number of units is rounded to a number that is one part in `2 ^ 53` away at most. -/
theorem abs_units_indexOf_sub_le (hden : 0 < den) :
    |(units (indexOf (c * den) den) : ℤ) - c| * 2 ^ 53 ≤ c := by
  obtain ⟨k, -, hunits, -, rfl | hle⟩ := exists_units_indexOf (c * den) hden
  · -- in the smallest spacing it is one of the numbers
    rw [hunits, Nat.pow_zero, Nat.mul_one, Nat.mul_one, roundToEven_mul hden, sub_self, abs_zero]
    omega
  · set r := roundToEven (c * den) (den * 2 ^ k) with hr
    have hspacing : 0 < den * 2 ^ k := Nat.mul_pos hden (by positivity)
    have hlarge : 2 ^ (k + 52) ≤ c := by
      rw [Nat.mul_comm] at hle
      exact Nat.le_of_mul_le_mul_right hle hden
    have hup : 2 * (r * 2 ^ k) ≤ 2 * c + 2 ^ k := by
      apply Nat.le_of_mul_le_mul_left _ hden
      calc den * (2 * (r * 2 ^ k)) = 2 * (den * 2 ^ k * r) := by ring
        _ ≤ 2 * (c * den) + den * 2 ^ k := roundToEven_mul_le hspacing
        _ = den * (2 * c + 2 ^ k) := by ring
    have hdown : 2 * c ≤ 2 * (r * 2 ^ k) + 2 ^ k := by
      apply Nat.le_of_mul_le_mul_left _ hden
      calc den * (2 * c) = 2 * (c * den) := by ring
        _ ≤ 2 * (den * 2 ^ k * r) + den * 2 ^ k := le_roundToEven_mul hspacing
        _ = den * (2 * (r * 2 ^ k) + 2 ^ k) := by ring
    have hpower : 2 ^ 52 * 2 ^ k ≤ c := by
      rw [← Nat.pow_add, Nat.add_comm]
      exact hlarge
    rw [hunits]
    rcases abs_cases (((r * 2 ^ k : Nat) : ℤ) - c) with ⟨habs, -⟩ | ⟨habs, -⟩
    · rw [habs]
      omega
    · rw [habs]
      omega

theorem le_roundAway (hden : 0 < den) (h : c * den ≤ num) : c ≤ roundAway num den := by
  refine (Nat.le_div_iff_mul_le (Nat.mul_pos (by decide) hden)).2 ?_
  calc c * (2 * den) = 2 * (c * den) := by ring
    _ ≤ 2 * num + den := by omega

theorem roundAway_le (hden : 0 < den) (h : num ≤ c * den) : roundAway num den ≤ c := by
  refine Nat.le_of_lt_succ ((Nat.div_lt_iff_lt_mul (Nat.mul_pos (by decide) hden)).2 ?_)
  calc 2 * num + den ≤ 2 * (c * den) + den := by omega
    _ < 2 * (c * den) + 2 * den := by omega
    _ = (c + 1) * (2 * den) := by ring

theorem abs_roundAway_sub_le (hden : 0 < den) :
    |2 * ((den : ℤ) * roundAway num den) - 2 * num| ≤ den := by
  have hdivision : 2 * den * roundAway num den + (2 * num + den) % (2 * den) = 2 * num + den :=
    Nat.div_add_mod _ _
  have hrest : (2 * num + den) % (2 * den) < 2 * den := Nat.mod_lt _ (by omega)
  rw [Nat.mul_assoc] at hdivision
  have hup : 2 * (den * roundAway num den) ≤ 2 * num + den := by omega
  have hdown : 2 * num ≤ 2 * (den * roundAway num den) + den := by omega
  zify at hup hdown
  rw [abs_le]
  constructor
  · omega
  · omega

/-- A number from `2 ^ (m + 52)` units on is a whole number of spacings of `2 ^ m`. -/
theorem pow_dvd_units {index : Nat} (h : 2 ^ (m + 52) ≤ units index) : 2 ^ m ∣ units index := by
  obtain ⟨-, hlt, -⟩ := significand_spec index
  have hunits : units index = significand index * 2 ^ doublings index := rfl
  rw [hunits] at h ⊢
  have hpower : 2 ^ (m + 52) < 2 ^ (53 + doublings index) := by
    calc 2 ^ (m + 52) ≤ significand index * 2 ^ doublings index := h
      _ < 2 * binade * 2 ^ doublings index :=
        Nat.mul_lt_mul_of_pos_right hlt (Nat.two_pow_pos _)
      _ = 2 ^ (53 + doublings index) := by rw [binade, Nat.pow_add]
  have hm : m ≤ doublings index := by
    have := (Nat.pow_lt_pow_iff_right (by decide)).1 hpower
    omega
  exact Dvd.dvd.mul_left (Nat.pow_dvd_pow 2 hm) _

end Rounding

end ShopSync.Number.Binary64
