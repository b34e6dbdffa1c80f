import Mathlib.Tactic
import ShopSync.Money
import ShopSync.Proofs.Number.Nearness

/-!
The amount of a price.

A price is multiplied by a hundred, the product is rounded to a floating-point number and that one
to a whole number, which is kept to a signed word of 64 bits.  As long as the hundredths of the
price fit such a word, the two roundings are all that the amount loses.  Past that the largest word
is taken for the amount, and nothing is reported.  So an amount stands for its price exactly when a
hundred times the price is below `2 ^ 63` (`ofDecimal_keepsPrice_iff`).
-/

namespace ShopSync

open Number (Binary64 int64Limit)

namespace Money

open Number.Binary64

/-- What comes of a price stands for it: an amount counts hundredths, and differs from those of the
price by the two roundings at most; and there is none when a signed word of 64 bits cannot hold
them. -/
structure KeepsPrice (price : Binary64) (outcome : Except ValidationError Money) : Prop where
  near : ∀ money, outcome = .ok money → money.divisor = 100 ∧
    |(money.amount : ℚ) - 100 * price.toRat| ≤ 1 / 2 + 100 * price.toRat / 2 ^ 53
  fits : ∀ money, outcome = .ok money → 100 * price.toRat < int64Limit

/-! ### A hundred times a number -/

section Hundredfold

variable (s : Bool) (i : Fin Number.indexLimit)

theorem exists_ofNat_minorUnits :
    ∃ j, ofNat minorUnits = .finite false j ∧ units j.val = minorUnits * unitsPerOne := by
  have hlt : minorUnits * unitsPerOne < overflow * 1 := by
    rw [Nat.mul_one]
    exact (Nat.mul_le_mul_right _ (show minorUnits ≤ 2 ^ 7 by decide)).trans_lt
      (pow_mul_unitsPerOne_lt (by decide))
  obtain ⟨j, hfinite, hindex⟩ := @ofUnits_of_lt _ 1 false Nat.one_pos hlt
  refine ⟨j, hfinite, ?_⟩
  obtain ⟨e, -, hunits⟩ := exists_unitsPerOne_eq
  have hexact := @units_indexOf_mul 1 e minorUnits Nat.one_pos (by decide)
  rwa [Nat.mul_one, ← hunits, ← hindex] at hexact

theorem finite_mul_ofNat_minorUnits :
    (finite s i * ofNat minorUnits : Binary64) =
      ofUnits s (minorUnits * units i.val * unitsPerOne) unitsPerOne := by
  obtain ⟨j, hhundred, hunits⟩ := exists_ofNat_minorUnits
  rw [hhundred, finite_mul_finite, hunits, Bool.bne_false, ← Nat.mul_assoc,
    Nat.mul_comm (units i.val)]

theorem minorUnits_mul_units_le (hfits : minorUnits * units i.val < 2 ^ 63 * unitsPerOne) :
    minorUnits * units i.val ≤ (2 ^ 53 - 1) * 2 ^ 10 * unitsPerOne := by
  obtain ⟨e, -, hunits⟩ := exists_unitsPerOne_eq
  rw [hunits] at hfits ⊢
  have hpower : 0 < 2 ^ e := Nat.two_pow_pos e
  rw [minorUnits] at hfits ⊢
  rcases Nat.lt_or_ge (units i.val) (2 ^ (4 + e + 52)) with hsmall | hlarge
  · have hexponent : 4 + e + 52 = 56 + e := by omega
    rw [hexponent, Nat.pow_add] at hsmall
    omega
  · -- numbers of this size are multiples of sixteen
    obtain ⟨q, hq⟩ := pow_dvd_units hlarge
    have hsplit : 100 * units i.val = 1600 * q * 2 ^ e := by
      rw [hq, Nat.pow_add]
      ring
    rw [hsplit] at hfits ⊢
    have hwhole : 1600 * q < 2 ^ 63 := Nat.lt_of_mul_lt_mul_right hfits
    exact Nat.mul_le_mul_right _ (by omega)

/-- A size with a sign that it does not need is kept to the largest word. -/
theorem clampInt64_eq_min {size : Nat} (hsign : s = true → size = 0) :
    clampInt64 s size = min (int64Limit - 1) size := by
  cases s with
  | false => rfl
  | true =>
    rw [hsign rfl]
    rfl

theorem indexOf_hundredfold_lt {hundredths : Nat} (hfits : hundredths < 2 ^ 63 * unitsPerOne) :
    indexOf (hundredths * unitsPerOne) unitsPerOne < Number.indexLimit :=
  indexOf_lt unitsPerOne_pos (Nat.mul_lt_mul_of_pos_right
    (hfits.trans (pow_mul_unitsPerOne_lt (by decide))) unitsPerOne_pos)

/-- The hundredths that are counted: the product is rounded twice, and is past the signed words of
64 bits when the exact one is. -/
theorem exists_size (hsign : s = true → units i.val = 0) :
    ∃ size : Nat, (finite s i * ofNat minorUnits : Binary64).roundInt64 =
        min (int64Limit - 1) size ∧
      (minorUnits * units i.val < 2 ^ 63 * unitsPerOne → size < int64Limit ∧
        |2 * ((unitsPerOne : ℤ) * size) - 2 * (minorUnits * units i.val : Nat)| * 2 ^ 53 ≤
          unitsPerOne * 2 ^ 53 + 2 * (minorUnits * units i.val : Nat)) ∧
      (2 ^ 63 * unitsPerOne ≤ minorUnits * units i.val → int64Limit ≤ size) := by
  have hpos := unitsPerOne_pos
  have hroom := minorUnits_mul_units_le i
  have hzero : s = true → minorUnits * units i.val = 0 := fun h => by rw [hsign h, Nat.mul_zero]
  rw [finite_mul_ofNat_minorUnits, ofUnits]
  generalize minorUnits * units i.val = hundredths at hroom hzero ⊢
  have hnear := @abs_units_indexOf_sub_le unitsPerOne hundredths hpos
  split
  case isFalse hlimit =>
    have hlarge : 2 ^ 63 * unitsPerOne ≤ hundredths :=
      Nat.le_of_not_lt fun hfits => hlimit (indexOf_hundredfold_lt hfits)
    refine ⟨UInt64.size, clampInt64_eq_min s fun hs => ?_,
      fun hfits => absurd hfits (Nat.not_lt.2 hlarge), fun _ => by decide⟩
    rw [hzero hs] at hlarge
    exact absurd hlarge (Nat.not_le.2 (Nat.mul_pos (by decide) hpos))
  case isTrue hlimit =>
    rw [roundInt64]
    dsimp only
    have hhigh : hundredths ≤ (2 ^ 53 - 1) * 2 ^ 10 * unitsPerOne →
        units (indexOf (hundredths * unitsPerOne) unitsPerOne) ≤
          (2 ^ 53 - 1) * 2 ^ 10 * unitsPerOne := by
      obtain ⟨e, -, hunits⟩ := exists_unitsPerOne_eq
      have hsplit : (2 ^ 53 - 1) * 2 ^ 10 * unitsPerOne = (2 ^ 53 - 1) * 2 ^ (10 + e) := by
        rw [hunits, Nat.mul_assoc, ← Nat.pow_add]
      rw [hsplit]
      exact fun h => units_indexOf_le_mul hpos (by decide) (Nat.mul_le_mul_right _ h)
    have hlow : 2 ^ 63 * unitsPerOne ≤ hundredths →
        2 ^ 63 * unitsPerOne ≤ units (indexOf (hundredths * unitsPerOne) unitsPerOne) := by
      obtain ⟨e, -, hunits⟩ := exists_unitsPerOne_eq
      have hsplit : 2 ^ 63 * unitsPerOne = 2 ^ (63 + e) := by rw [hunits, ← Nat.pow_add]
      rw [hsplit]
      exact fun h => le_units_indexOf hpos (Nat.mul_le_mul_right _ h)
    generalize units (indexOf (hundredths * unitsPerOne) unitsPerOne) = rounded
      at hnear hhigh hlow ⊢
    have hround := @abs_roundAway_sub_le rounded unitsPerOne hpos
    refine ⟨roundAway rounded unitsPerOne, clampInt64_eq_min s fun hs => ?_,
      fun hfits => ⟨?_, ?_⟩, fun h => ?_⟩
    · have hnothing : rounded = 0 := by
        rw [hzero hs, Int.natCast_zero, sub_zero, Nat.abs_cast] at hnear
        omega
      refine Nat.le_zero.1 (roundAway_le hpos ?_)
      rw [hnothing]
      exact Nat.zero_le _
    · have hsize := roundAway_le hpos (hhigh (hroom hfits))
      have hlimit : int64Limit = 9223372036854775808 := rfl
      omega
    · calc |2 * ((unitsPerOne : ℤ) * roundAway rounded unitsPerOne) - 2 * hundredths| * 2 ^ 53
          ≤ (|2 * ((unitsPerOne : ℤ) * roundAway rounded unitsPerOne) - 2 * rounded| +
              |2 * (rounded : ℤ) - 2 * hundredths|) * 2 ^ 53 :=
            mul_le_mul_of_nonneg_right (abs_sub_le _ _ _) (by positivity)
        _ = |2 * ((unitsPerOne : ℤ) * roundAway rounded unitsPerOne) - 2 * rounded| * 2 ^ 53 +
              2 * (|(rounded : ℤ) - hundredths| * 2 ^ 53) := by
            rw [← mul_sub 2 (rounded : ℤ), abs_mul, abs_two]
            ring
        _ ≤ unitsPerOne * 2 ^ 53 + 2 * hundredths := by
            apply add_le_add
            · exact mul_le_mul_of_nonneg_right hround (by positivity)
            · exact mul_le_mul_of_nonneg_left hnear (by decide)
    · have hsize := le_roundAway hpos (hlow h)
      have hlimit : int64Limit = 9223372036854775808 := rfl
      omega

end Hundredfold

/-! ### The amount -/

section Amount

variable {price : Binary64} {currency code : String}

theorem exists_finite (hfinite : price.isFinite = true)
    (hsign : price.lt Binary64.zero = false) :
    ∃ s i, price = .finite s i ∧ (s = true → units i.val = 0) := by
  cases price with
  | nan => exact nomatch hfinite
  | infinite s => exact nomatch hfinite
  | finite s i =>
    refine ⟨s, i, rfl, fun hs => ?_⟩
    subst hs
    have hzero : Binary64.zero = .finite false ⟨0, by decide⟩ := by decide
    have hnone : ((units 0 : Nat) : ℤ) = 0 := by rw [units_zero, Nat.cast_zero]
    rw [hzero, Binary64.lt, decide_eq_false_iff_not, signedUnits, signedUnits, hnone] at hsign
    omega

theorem hundred_mul_toRat {s : Bool} {i : Fin Number.indexLimit}
    (hsign : s = true → units i.val = 0) :
    100 * (finite s i).toRat = (minorUnits * units i.val : Nat) / (unitsPerOne : Nat) := by
  have hfraction : (finite s i).toRat = (units i.val : Nat) / (unitsPerOne : Nat) := by
    cases s with
    | false => rfl
    | true =>
      rw [toRat, signedUnits, hsign rfl, Nat.cast_zero, neg_zero, Int.cast_zero, Nat.cast_zero]
  have hminor : (minorUnits : ℚ) = 100 := by norm_num [minorUnits]
  rw [hfraction, Nat.cast_mul, hminor, mul_div_assoc]

theorem abs_sub_div_le {size hundredths one : ℚ} (hpos : 0 < one)
    (h : |2 * (one * size) - 2 * hundredths| * 2 ^ 53 ≤ one * 2 ^ 53 + 2 * hundredths) :
    |size - hundredths / one| ≤ 1 / 2 + hundredths / one / 2 ^ 53 := by
  have hsplit : 2 * (one * size) - 2 * hundredths = 2 * one * (size - hundredths / one) := by
    field_simp
  rw [hsplit, abs_mul, abs_of_pos (mul_pos two_pos hpos)] at h
  rw [← mul_le_mul_iff_right₀ (show 0 < 2 * one * 2 ^ 53 by positivity)]
  calc 2 * one * 2 ^ 53 * |size - hundredths / one|
      = 2 * one * |size - hundredths / one| * 2 ^ 53 := by ring
    _ ≤ one * 2 ^ 53 + 2 * hundredths := h
    _ = 2 * one * 2 ^ 53 * (1 / 2 + hundredths / one / 2 ^ 53) := by field_simp

theorem clamped_of_size {size hundredths one : Nat} (hpos : 0 < one)
    (hbelow : hundredths < 2 ^ 63 * one → size < int64Limit ∧
      |2 * ((one : ℤ) * size) - 2 * hundredths| * 2 ^ 53 ≤ one * 2 ^ 53 + 2 * hundredths)
    (habove : 2 ^ 63 * one ≤ hundredths → int64Limit ≤ size) :
    ((hundredths : ℚ) / one < int64Limit →
      |((min (int64Limit - 1) size : ℤ) : ℚ) - hundredths / one| ≤
        1 / 2 + (hundredths : ℚ) / one / 2 ^ 53) ∧
    (int64Limit ≤ (hundredths : ℚ) / one → min (int64Limit - 1) (size : ℤ) = int64Limit - 1) := by
  have hcast : (0 : ℚ) < one := Nat.cast_pos.2 hpos
  have hlimit : (int64Limit : ℚ) = 2 ^ 63 := by norm_num [int64Limit]
  rw [hlimit]
  constructor
  · intro hfits
    rw [div_lt_iff₀ hcast] at hfits
    obtain ⟨hsize, hnear⟩ := hbelow (by exact_mod_cast hfits)
    have hkept : min (int64Limit - 1) (size : ℤ) = size := min_eq_right (by omega)
    rw [hkept, Int.cast_natCast]
    exact abs_sub_div_le hcast (by exact_mod_cast hnear)
  · intro hfull
    rw [le_div_iff₀ hcast] at hfull
    have hsize := habove (by exact_mod_cast hfull)
    exact min_eq_left (by omega)

/-- The amount of a price: its hundredths within the two roundings when a signed word of 64 bits
holds them, and the largest such word when it does not. -/
theorem roundInt64_hundredfold (hfinite : price.isFinite = true)
    (hsign : price.lt Binary64.zero = false) :
    (100 * price.toRat < int64Limit →
      |((price * ofNat minorUnits).roundInt64 : ℚ) - 100 * price.toRat| ≤
        1 / 2 + 100 * price.toRat / 2 ^ 53) ∧
    (int64Limit ≤ 100 * price.toRat →
      (price * ofNat minorUnits).roundInt64 = int64Limit - 1) := by
  obtain ⟨s, i, rfl, hsigned⟩ := exists_finite hfinite hsign
  obtain ⟨size, hamount, hbelow, habove⟩ := exists_size s i hsigned
  rw [hundred_mul_toRat hsigned, hamount]
  exact clamped_of_size unitsPerOne_pos hbelow habove

theorem ofDecimal_eq (hfinite : price.isFinite = true) (hsign : price.lt Binary64.zero = false)
    (hcode : parseCurrency currency = .ok code) :
    ofDecimal price currency = .ok
      { amount := (price * ofNat minorUnits).roundInt64
        divisor := minorUnits
        currencyCode := code } := by
  have hprice : requireNonNegative "price" price = .ok () := by
    rw [requireNonNegative, hfinite, hsign]
    rfl
  rw [ofDecimal, hprice, hcode]
  rfl

/-- An amount stands for its price exactly when a hundred times the price is below `2 ^ 63`.  Below
that there is an amount, in hundredths and in the currency that was asked for, within the two
roundings of the price; from there on the amount is the largest signed word of 64 bits, whatever the
price. -/
theorem ofDecimal_keepsPrice_iff (hfinite : price.isFinite = true)
    (hsign : price.lt Binary64.zero = false) (hcode : parseCurrency currency = .ok code) :
    (KeepsPrice price (ofDecimal price currency) ↔ 100 * price.toRat < int64Limit) ∧
    (100 * price.toRat < int64Limit → ∃ amount,
      ofDecimal price currency = .ok { amount, divisor := 100, currencyCode := code } ∧
      |(amount : ℚ) - 100 * price.toRat| ≤ 1 / 2 + 100 * price.toRat / 2 ^ 53) ∧
    (int64Limit ≤ 100 * price.toRat →
      ofDecimal price currency = .ok
        { amount := int64Limit - 1, divisor := 100, currencyCode := code }) := by
  obtain ⟨hbelow, habove⟩ := roundInt64_hundredfold hfinite hsign
  have hresult := ofDecimal_eq hfinite hsign hcode
  refine ⟨⟨fun hkeeps => hkeeps.fits _ hresult, fun hfits => ⟨?near, fun _ _ => hfits⟩⟩,
    fun hfits => ⟨_, hresult, hbelow hfits⟩, fun hfull => ?_⟩
  case near =>
    intro money hmoney
    cases hresult.symm.trans hmoney
    exact ⟨rfl, hbelow hfits⟩
  · rw [hresult, habove hfull]
    rfl

end Amount

theorem toRat_le_of_atMost {price : Binary64} {m : Nat} (h : price.AtMost m) :
    price.toRat ≤ 2 ^ m := by
  obtain ⟨s, i, rfl, hsize⟩ := h
  have hsigned : (finite s i).signedUnits ≤ units i.val := by
    cases s with
    | false => exact le_rfl
    | true => exact (neg_nonpos.2 (Int.natCast_nonneg _)).trans (Int.natCast_nonneg _)
  have hpos : (0 : ℚ) < (unitsPerOne : Nat) := Nat.cast_pos.2 unitsPerOne_pos
  rw [toRat, div_le_iff₀ hpos]
  calc ((finite s i).signedUnits : ℚ) ≤ ((units i.val : Nat) : ℤ) := Int.cast_le.2 hsigned
    _ = (units i.val : Nat) := Int.cast_natCast _
    _ ≤ (2 ^ m * unitsPerOne : Nat) := Nat.cast_le.2 hsize
    _ = 2 ^ m * (unitsPerOne : Nat) := by rw [Nat.cast_mul, Nat.cast_pow, Nat.cast_ofNat]

theorem pow_le_toRat_ofNat {m n : Nat} (h : 2 ^ m ≤ n) (hlt : n * unitsPerOne < overflow) :
    2 ^ m ≤ (ofNat n).toRat := by
  obtain ⟨i, hfinite, hindex⟩ :=
    @ofUnits_of_lt (n * unitsPerOne) 1 false Nat.one_pos (by rwa [Nat.mul_one])
  have hsize : 2 ^ m * unitsPerOne ≤ units i.val := by
    obtain ⟨e, -, hunits⟩ := exists_unitsPerOne_eq
    rw [hindex, hunits, ← Nat.pow_add]
    apply le_units_indexOf Nat.one_pos
    rw [Nat.mul_one, Nat.pow_add]
    exact Nat.mul_le_mul_right _ h
  have hpos : (0 : ℚ) < (unitsPerOne : Nat) := Nat.cast_pos.2 unitsPerOne_pos
  rw [ofNat, hfinite, toRat, le_div_iff₀ hpos]
  calc (2 : ℚ) ^ m * (unitsPerOne : Nat) = (2 ^ m * unitsPerOne : Nat) := by
        rw [Nat.cast_mul, Nat.cast_pow, Nat.cast_ofNat]
    _ ≤ (units i.val : Nat) := Nat.cast_le.2 hsize
    _ = ((finite false i).signedUnits : ℚ) := (Int.cast_natCast _).symm

/-- Twenty-nine cents, whose hundredfold is rounded in binary. -/
theorem ofDecimal_keepsPrice_iff_cents :
    (Binary64.ofDecimal false 29 (-2)).isFinite = true ∧
    (Binary64.ofDecimal false 29 (-2)).lt Binary64.zero = false ∧
    parseCurrency " usd" = .ok "USD" ∧
    KeepsPrice (Binary64.ofDecimal false 29 (-2))
      (ofDecimal (Binary64.ofDecimal false 29 (-2)) " usd") := by
  have hfinite : (Binary64.ofDecimal false 29 (-2)).isFinite = true := by decide +kernel
  have hsign : (Binary64.ofDecimal false 29 (-2)).lt Binary64.zero = false := by decide +kernel
  have hcode : parseCurrency " usd" = .ok "USD" := by decide +kernel
  have hsize : (Binary64.ofDecimal false 29 (-2)).toRat ≤ 2 ^ 0 := by
    refine toRat_le_of_atMost ⟨false, ⟨4598895795485655695, by decide⟩, ?_, ?_⟩
    · decide +kernel
    · decide +kernel
  refine ⟨hfinite, hsign, hcode, (ofDecimal_keepsPrice_iff hfinite hsign hcode).1.2 ?_⟩
  calc 100 * (Binary64.ofDecimal false 29 (-2)).toRat ≤ 100 * 2 ^ 0 :=
        mul_le_mul_of_nonneg_left hsize (by norm_num)
    _ < int64Limit := by norm_num [int64Limit]

/-- A price of `10 ^ 18` becomes the amount of another one, and nothing is reported. -/
theorem ofDecimal_clamps :
    ofDecimal (ofNat (10 ^ 18)) "USD" = .ok
      { amount := 9223372036854775807, divisor := 100, currencyCode := "USD" } ∧
    ¬ KeepsPrice (ofNat (10 ^ 18)) (ofDecimal (ofNat (10 ^ 18)) "USD") := by
  have hresult : ofDecimal (ofNat (10 ^ 18)) "USD" = .ok
      { amount := 9223372036854775807, divisor := 100, currencyCode := "USD" } := by
    decide +kernel
  refine ⟨hresult, fun hkeeps => ?_⟩
  have hlarge : (2 : ℚ) ^ 57 ≤ (ofNat (10 ^ 18)).toRat := by
    refine pow_le_toRat_ofNat (by decide) ?_
    exact (Nat.mul_le_mul_right _ (show 10 ^ 18 ≤ 2 ^ 60 by decide)).trans_lt
      (pow_mul_unitsPerOne_lt (by decide))
  have hfits := hkeeps.fits _ hresult
  have hlimit : (int64Limit : ℚ) < 100 * 2 ^ 57 := by norm_num [int64Limit]
  exact absurd (mul_le_mul_of_nonneg_left hlarge (by norm_num)) (not_le.2 (hfits.trans hlimit))

end Money

end ShopSync
