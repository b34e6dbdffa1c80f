import Mathlib.Tactic
import ShopSync.Number.Binary64

/-!
Bounds of rounded numbers.

Rounding to an index moves a quotient by half a spacing at most.  So a power of two bounds the
rounded number when it bounds the exact one, on either side; the relative error is one part in
`2 ^ 53`; and only quotients half a spacing past the finite numbers are rounded to infinity.  From
these come the sizes of products and quotients.
-/

namespace ShopSync.Number.Binary64

/-! ### Rounding to a whole number -/

section Rounding

variable {num den c : Nat}

theorem roundToEven_mul_le (hden : 0 < den) :
    2 * (den * roundToEven num den) ≤ 2 * num + den := by
  have hdivision : den * (num / den) + num % den = num := Nat.div_add_mod num den
  have hrest : num % den < den := Nat.mod_lt num hden
  have hup : den * (num / den + 1) = den * (num / den) + den := Nat.mul_succ _ _
  unfold roundToEven
  dsimp only
  split
  · omega
  · split
    · omega
    · rcases Nat.mod_two_eq_zero_or_one (num / den) with heven | hodd
      · rw [heven, Nat.add_zero]
        omega
      · rw [hodd]
        omega

theorem le_roundToEven (hden : 0 < den) (h : c * den ≤ num) : c ≤ roundToEven num den := by
  have hquotient : c ≤ num / den := (Nat.le_div_iff_mul_le hden).2 h
  unfold roundToEven
  dsimp only
  split
  · exact hquotient
  · split
    · exact Nat.le_succ_of_le hquotient
    · exact Nat.le_add_right_of_le hquotient

theorem roundToEven_le_of_lt (h : 2 * num < (2 * c + 1) * den) : roundToEven num den ≤ c := by
  have hden : 0 < den := by
    by_contra hzero
    rw [Nat.eq_zero_of_not_pos hzero] at h
    omega
  have hdivision : den * (num / den) + num % den = num := Nat.div_add_mod num den
  have hbound : (2 * c + 1) * den = 2 * (den * c) + den := by ring
  have hquotient : num / den ≤ c := by
    by_contra hgt
    have hmul : den * (c + 1) ≤ den * (num / den) := Nat.mul_le_mul_left den (Nat.lt_of_not_le hgt)
    rw [Nat.mul_succ] at hmul
    omega
  unfold roundToEven
  dsimp only
  rcases hquotient.lt_or_eq with hlt | heq
  · have hparity := Nat.mod_lt (num / den) (show 0 < 2 by decide)
    split
    · exact hlt.le
    · split
      · exact hlt
      · omega
  · rw [heq] at hdivision ⊢
    rw [if_pos (by omega)]

theorem roundToEven_le (hden : 0 < den) (h : num ≤ c * den) : roundToEven num den ≤ c := by
  apply roundToEven_le_of_lt
  have hexpand : (2 * c + 1) * den = 2 * (c * den) + den := by ring
  omega

end Rounding

/-! ### Rounding to an index -/

/-- The units of an index by its spacing and its distance from where that spacing begins. -/
theorem units_add {k m : Nat} (hlow : k = 0 ∨ binade ≤ m) (hhigh : m ≤ 2 * binade) :
    units (k * binade + m) = m * 2 ^ k := by
  have hbinade : 0 < binade := by decide
  rcases hhigh.lt_or_eq with hlt | heq
  · have hdoublings : doublings (k * binade + m) = k := by
      rw [doublings, Nat.add_comm, Nat.add_mul_div_right m k hbinade]
      rcases Nat.lt_or_ge m binade with hsmall | hbig
      · have hzero : k = 0 := hlow.resolve_right (Nat.not_le.2 hsmall)
        rw [Nat.div_eq_of_lt hsmall, hzero]
      · have hone : m / binade = 1 :=
          Nat.div_eq_of_lt_le (by rwa [Nat.one_mul]) hlt
        rw [hone]
        omega
    rw [units, significand, hdoublings, Nat.add_sub_cancel_left]
    rfl
  · -- the first number of the next spacing
    have hdoublings : doublings (k * binade + m) = k + 1 := by
      have hsum : k * binade + m = (k + 2) * binade := by
        rw [heq]
        ring
      rw [doublings, hsum, Nat.mul_div_cancel _ hbinade]
      omega
    have hsignificand : significand (k * binade + m) = binade := by
      rw [significand, hdoublings, heq, Nat.succ_mul k binade]
      omega
    rw [units, hsignificand, hdoublings, heq]
    change binade * 2 ^ (k + 1) = 2 * binade * 2 ^ k
    ring

section Index

variable {num den m : Nat}

/-- The spacing that is chosen is the one of the quotient. -/
theorem exists_spacing (num : Nat) (hden : 0 < den) :
    ∃ k, indexOf num den = k * binade + roundToEven num (den * 2 ^ k) ∧
      num < den * 2 ^ (k + 53) ∧ (k = 0 ∨ den * 2 ^ (k + 52) ≤ num) := by
  refine ⟨(num / den).log2 - 52, rfl, ?_, ?_⟩
  · have hquotient : num / den < 2 ^ ((num / den).log2 - 52 + 53) :=
      Nat.lt_log2_self.trans_le (Nat.pow_le_pow_right (by decide) (by omega))
    rw [Nat.mul_comm]
    exact (Nat.div_lt_iff_lt_mul hden).1 hquotient
  · rcases Nat.eq_zero_or_pos ((num / den).log2 - 52) with hzero | hpos
    · exact .inl hzero
    · right
      have hne : num / den ≠ 0 := by
        intro hzero
        rw [hzero, Nat.log2_zero] at hpos
        omega
      have hpower : 2 ^ ((num / den).log2 - 52 + 52) ≤ num / den := by
        rw [Nat.sub_add_cancel (by omega)]
        exact Nat.log2_self_le hne
      rw [Nat.mul_comm]
      exact (Nat.le_div_iff_mul_le hden).1 hpower

theorem exists_units_indexOf (num : Nat) (hden : 0 < den) :
    ∃ k, indexOf num den = k * binade + roundToEven num (den * 2 ^ k) ∧
      units (indexOf num den) = roundToEven num (den * 2 ^ k) * 2 ^ k ∧
      num < den * 2 ^ (k + 53) ∧ (k = 0 ∨ den * 2 ^ (k + 52) ≤ num) := by
  obtain ⟨k, hindex, hlt, hle⟩ := exists_spacing num hden
  have hspacing : 0 < den * 2 ^ k := Nat.mul_pos hden (by positivity)
  refine ⟨k, hindex, ?_, hlt, hle⟩
  rw [hindex]
  apply units_add
  · refine hle.imp_right fun hle => ?_
    apply le_roundToEven hspacing
    calc binade * (den * 2 ^ k) = den * 2 ^ (k + 52) := by rw [binade]; ring
      _ ≤ num := hle
  · apply roundToEven_le hspacing
    calc num ≤ den * 2 ^ (k + 53) := hlt.le
      _ = 2 * binade * (den * 2 ^ k) := by rw [binade]; ring

/-- A number of at most `2 ^ 53` spacings bounds the rounded number when it bounds the exact one. -/
theorem units_indexOf_le_mul {c : Nat} (hden : 0 < den) (hc : c ≤ 2 ^ 53)
    (h : num ≤ c * 2 ^ m * den) : units (indexOf num den) ≤ c * 2 ^ m := by
  obtain ⟨k, -, hunits, -, hle⟩ := exists_units_indexOf num hden
  have hspacing : 0 < den * 2 ^ k := Nat.mul_pos hden (by positivity)
  rw [hunits]
  rcases Nat.lt_or_ge m k with hmk | hkm
  · -- the bound is the first number of the spacing
    have hlow : 2 ^ (k + 52) ≤ c * 2 ^ m := by
      apply Nat.le_of_mul_le_mul_left _ hden
      rw [Nat.mul_comm den (c * 2 ^ m)]
      exact (hle.resolve_left (by omega)).trans h
    have hhigh : c * 2 ^ m ≤ 2 ^ (53 + m) := by
      rw [Nat.pow_add]
      exact Nat.mul_le_mul_right _ hc
    have hk : k = m + 1 := by
      have := (Nat.pow_le_pow_iff_right (by decide)).1 (hlow.trans hhigh)
      omega
    have hbound : c * 2 ^ m = 2 ^ 52 * 2 ^ k := by
      refine (Nat.le_antisymm hhigh ?_).trans ?_
      · rw [hk] at hlow
        calc 2 ^ (53 + m) = 2 ^ (m + 1 + 52) := by congr 1; omega
          _ ≤ c * 2 ^ m := hlow
      · rw [hk]
        ring
    rw [hbound] at h ⊢
    apply Nat.mul_le_mul_right
    apply roundToEven_le hspacing
    calc num ≤ 2 ^ 52 * 2 ^ k * den := h
      _ = 2 ^ 52 * (den * 2 ^ k) := by ring
  · have hsplit : c * 2 ^ m = c * 2 ^ (m - k) * 2 ^ k := by
      rw [Nat.mul_assoc, ← Nat.pow_add, Nat.sub_add_cancel hkm]
    rw [hsplit] at h ⊢
    apply Nat.mul_le_mul_right
    apply roundToEven_le hspacing
    calc num ≤ c * 2 ^ (m - k) * 2 ^ k * den := h
      _ = c * 2 ^ (m - k) * (den * 2 ^ k) := by ring

theorem units_indexOf_le (hden : 0 < den) (h : num ≤ 2 ^ m * den) :
    units (indexOf num den) ≤ 2 ^ m := by
  have hone : 1 * 2 ^ m = 2 ^ m := Nat.one_mul _
  rw [← hone] at h ⊢
  exact units_indexOf_le_mul hden (by decide) h

theorem le_units_indexOf_mul {c : Nat} (hden : 0 < den) (hc : c ≤ 2 ^ 53)
    (h : c * 2 ^ m * den ≤ num) : c * 2 ^ m ≤ units (indexOf num den) := by
  obtain ⟨k, -, hunits, -, hle⟩ := exists_units_indexOf num hden
  have hspacing : 0 < den * 2 ^ k := Nat.mul_pos hden (by positivity)
  rw [hunits]
  rcases Nat.lt_or_ge m k with hmk | hkm
  · have hfull : 2 ^ 52 ≤ roundToEven num (den * 2 ^ k) := by
      apply le_roundToEven hspacing
      calc 2 ^ 52 * (den * 2 ^ k) = den * 2 ^ (k + 52) := by ring
        _ ≤ num := hle.resolve_left (by omega)
    calc c * 2 ^ m ≤ 2 ^ 53 * 2 ^ m := Nat.mul_le_mul_right _ hc
      _ = 2 ^ 52 * 2 ^ (m + 1) := by ring
      _ ≤ roundToEven num (den * 2 ^ k) * 2 ^ k :=
        Nat.mul_le_mul hfull (Nat.pow_le_pow_right (by decide) hmk)
  · have hsplit : c * 2 ^ m = c * 2 ^ (m - k) * 2 ^ k := by
      rw [Nat.mul_assoc, ← Nat.pow_add, Nat.sub_add_cancel hkm]
    rw [hsplit] at h ⊢
    apply Nat.mul_le_mul_right
    apply le_roundToEven hspacing
    calc c * 2 ^ (m - k) * (den * 2 ^ k) = c * 2 ^ (m - k) * 2 ^ k * den := by ring
      _ ≤ num := h

theorem le_units_indexOf (hden : 0 < den) (h : 2 ^ m * den ≤ num) :
    2 ^ m ≤ units (indexOf num den) := by
  have hone : 1 * 2 ^ m = 2 ^ m := Nat.one_mul _
  rw [← hone] at h ⊢
  exact le_units_indexOf_mul hden (by decide) h

theorem units_indexOf_mul {c : Nat} (hden : 0 < den) (hc : c ≤ 2 ^ 53) :
    units (indexOf (c * 2 ^ m * den) den) = c * 2 ^ m :=
  Nat.le_antisymm (units_indexOf_le_mul hden hc (Nat.le_refl _))
    (le_units_indexOf_mul hden hc (Nat.le_refl _))

/-- From `2 ^ 52` units on, rounding adds one part in `2 ^ 53` at most. -/
theorem units_indexOf_mul_le (hden : 0 < den) (h : den * 2 ^ 52 ≤ num) :
    units (indexOf num den) * den * 2 ^ 53 ≤ num * (2 ^ 53 + 1) := by
  obtain ⟨k, -, hunits, -, hle⟩ := exists_units_indexOf num hden
  have hspacing : den * 2 ^ (k + 52) ≤ num := by
    rcases hle with rfl | hle
    · exact h
    · exact hle
  have hround : 2 * (den * 2 ^ k * roundToEven num (den * 2 ^ k)) ≤ 2 * num + den * 2 ^ k :=
    roundToEven_mul_le (Nat.mul_pos hden (by positivity))
  calc units (indexOf num den) * den * 2 ^ 53
      = 2 ^ 52 * (2 * (den * 2 ^ k * roundToEven num (den * 2 ^ k))) := by rw [hunits]; ring
    _ ≤ 2 ^ 52 * (2 * num + den * 2 ^ k) := Nat.mul_le_mul_left _ hround
    _ = 2 ^ 53 * num + den * 2 ^ (k + 52) := by ring
    _ ≤ 2 ^ 53 * num + num := Nat.add_le_add_left hspacing _
    _ = num * (2 ^ 53 + 1) := by ring

/-- Half a spacing past the last finite number, in units. -/
def overflow : Nat := (2 ^ 54 - 1) * 2 ^ 2044

theorem overflow_le : overflow ≤ 2 ^ (54 + 2044) := by
  have hpower (e : Nat) : (2 ^ 54 - 1) * 2 ^ e ≤ 2 ^ (54 + e) := by
    rw [Nat.pow_add]
    exact Nat.mul_le_mul_right _ (by decide)
  exact hpower 2044

/-- Below the middle between the last finite number and the one that would follow, a quotient is
rounded to a finite number. -/
theorem indexOf_lt (hden : 0 < den) (h : num < overflow * den) :
    indexOf num den < indexLimit := by
  obtain ⟨k, hindex, hlt, hle⟩ := exists_spacing num hden
  have hspacing : 0 < den * 2 ^ k := Nat.mul_pos hden (by positivity)
  have hk : k ≤ 2044 + 1 := by
    rcases hle with rfl | hle
    · exact Nat.zero_le (2044 + 1)
    · have hpower : 2 ^ (k + 52) < 2 ^ (54 + 2044) := by
        apply Nat.lt_of_mul_lt_mul_left (a := den)
        calc den * 2 ^ (k + 52) ≤ num := hle
          _ < overflow * den := h
          _ ≤ 2 ^ (54 + 2044) * den := Nat.mul_le_mul_right den overflow_le
          _ = den * 2 ^ (54 + 2044) := Nat.mul_comm _ _
      have := (Nat.pow_lt_pow_iff_right (by decide)).1 hpower
      omega
  rw [hindex, indexLimit]
  rcases hk.lt_or_eq with hsmall | rfl
  · have hround : roundToEven num (den * 2 ^ k) ≤ 2 * binade := by
      apply roundToEven_le hspacing
      calc num ≤ den * 2 ^ (k + 53) := hlt.le
        _ = 2 * binade * (den * 2 ^ k) := by rw [binade]; ring
    have hbase : k * binade ≤ 2044 * binade := Nat.mul_le_mul_right _ (by omega)
    have hbinade : binade = 4503599627370496 := rfl
    omega
  · have hround : roundToEven num (den * 2 ^ (2044 + 1)) ≤ 2 * binade - 1 := by
      have hhalf (e : Nat) (he : num < (2 ^ 54 - 1) * 2 ^ e * den) :
          2 * num < (2 * (2 * binade - 1) + 1) * (den * 2 ^ (e + 1)) := by
        calc 2 * num < 2 * ((2 ^ 54 - 1) * 2 ^ e * den) := Nat.mul_lt_mul_of_pos_left he (by decide)
          _ = (2 * (2 * binade - 1) + 1) * (den * 2 ^ (e + 1)) := by rw [binade]; ring
      exact roundToEven_le_of_lt (hhalf 2044 h)
    have hbinade : binade = 4503599627370496 := rfl
    omega

end Index

/-! ### Sizes of numbers -/

/-- The number is finite and no more than `2 ^ m` in size. -/
def AtMost (x : Binary64) (m : Nat) : Prop :=
  ∃ s i, x = .finite s i ∧ units i.val ≤ 2 ^ m * unitsPerOne

/-- The number is finite and no less than one in size. -/
def AtLeastOne (x : Binary64) : Prop :=
  ∃ s i, x = .finite s i ∧ unitsPerOne ≤ units i.val

section Sizes

variable {x y : Binary64} {m n num den : Nat} {s : Bool}

theorem AtMost.isFinite (h : x.AtMost m) : x.isFinite = true := by
  obtain ⟨s, i, rfl, -⟩ := h
  rfl

theorem ofUnits_of_lt (hden : 0 < den) (h : num < overflow * den) :
    ∃ i : Fin indexLimit, ofUnits s num den = .finite s i ∧ i.val = indexOf num den :=
  ⟨⟨indexOf num den, indexOf_lt hden h⟩, dif_pos (indexOf_lt hden h), rfl⟩

/-- One is a power of two in units; the exponent is kept a variable, so that nothing evaluates the
power. -/
theorem exists_unitsPerOne_eq : ∃ e, e = 1074 ∧ unitsPerOne = 2 ^ e := by
  obtain ⟨e, he, hunits⟩ : ∃ e, e = 1074 ∧ unitsPerOne = Nat.pow 2 e := by
    delta unitsPerOne
    exact ⟨_, rfl, rfl⟩
  exact ⟨e, he, hunits⟩

theorem unitsPerOne_pos : 0 < unitsPerOne := by
  obtain ⟨e, -, he⟩ := exists_unitsPerOne_eq
  rw [he]
  exact Nat.two_pow_pos e

theorem pow_mul_unitsPerOne_lt (hm : m < 1024) : 2 ^ m * unitsPerOne < overflow := by
  have hpower {e e' : Nat} (he : m + e < 54 + e') :
      2 ^ m * 2 ^ e < (2 ^ 54 - 1) * 2 ^ e' := by
    rw [← Nat.pow_add]
    calc 2 ^ (m + e) ≤ 2 ^ (53 + e') := Nat.pow_le_pow_right (by decide) (by omega)
      _ = 2 ^ 53 * 2 ^ e' := Nat.pow_add 2 53 e'
      _ < (2 ^ 54 - 1) * 2 ^ e' := Nat.mul_lt_mul_of_pos_right (by decide) (Nat.two_pow_pos e')
  obtain ⟨e, he, hunits⟩ := exists_unitsPerOne_eq
  rw [hunits]
  exact @hpower e 2044 (by omega)

theorem atMost_ofUnits (s : Bool) (hden : 0 < den) (hm : m < 1024)
    (h : num ≤ 2 ^ m * unitsPerOne * den) : (ofUnits s num den).AtMost m := by
  have hlt : num < overflow * den :=
    h.trans_lt (Nat.mul_lt_mul_of_pos_right (pow_mul_unitsPerOne_lt hm) hden)
  obtain ⟨i, hfinite, hindex⟩ := @ofUnits_of_lt num den s hden hlt
  refine ⟨s, i, hfinite, ?_⟩
  obtain ⟨e, -, hunits⟩ := exists_unitsPerOne_eq
  rw [hunits, ← Nat.pow_add] at h ⊢
  rw [hindex]
  exact units_indexOf_le hden h

theorem atMost_zero (m : Nat) : zero.AtMost m := by
  refine ⟨false, ⟨0, by decide⟩, by decide, ?_⟩
  have hunits : units 0 = 0 := by decide
  rw [hunits]
  exact Nat.zero_le _

theorem atMost_ofNat (hm : m < 1024) (h : n ≤ 2 ^ m) : (ofNat n).AtMost m := by
  apply atMost_ofUnits false Nat.one_pos hm
  rw [Nat.mul_one]
  exact Nat.mul_le_mul_right _ h

theorem atMost_ofInt {n : Int} (hm : m < 1024) (h : n.natAbs ≤ 2 ^ m) : (ofInt n).AtMost m := by
  apply atMost_ofUnits _ Nat.one_pos hm
  rw [Nat.mul_one]
  exact Nat.mul_le_mul_right _ h

/-- One is rounded to one, so no whole number but zero is rounded below it. -/
theorem atLeastOne_ofUnits (s : Bool) (hn : 0 < n) (hlt : n * unitsPerOne < overflow) :
    (ofUnits s (n * unitsPerOne) 1).AtLeastOne := by
  obtain ⟨i, hfinite, hindex⟩ :=
    @ofUnits_of_lt (n * unitsPerOne) 1 s Nat.one_pos (by rwa [Nat.mul_one])
  refine ⟨s, i, hfinite, ?_⟩
  obtain ⟨e, -, hunits⟩ := exists_unitsPerOne_eq
  rw [hindex, hunits]
  apply le_units_indexOf Nat.one_pos
  rw [Nat.mul_one]
  exact Nat.le_mul_of_pos_left _ hn

/-- Rounding takes no whole number past the signed range of 64 bits back into it. -/
theorem truncInt64_ofInt_of_le {n : Int} (h : int64Limit ≤ n) :
    (ofInt n).truncInt64 = int64Limit - 1 := by
  have hlimit : int64Limit = ((2 ^ 63 : Nat) : Int) := rfl
  have hsign : decide (n < 0) = false := decide_eq_false (by omega)
  have hsize : 2 ^ 63 ≤ n.natAbs := by omega
  rw [ofInt, hsign, ofUnits]
  split
  next hindex =>
    have hpast : 2 ^ 63 ≤ units (indexOf (n.natAbs * unitsPerOne) 1) / unitsPerOne := by
      rw [Nat.le_div_iff_mul_le unitsPerOne_pos]
      obtain ⟨e, -, hunits⟩ := exists_unitsPerOne_eq
      rw [hunits, ← pow_add]
      apply le_units_indexOf Nat.one_pos
      rw [Nat.mul_one, pow_add]
      exact Nat.mul_le_mul_right _ hsize
    rw [truncInt64, clampInt64, if_neg Bool.false_ne_true]
    refine min_eq_left ?_
    have hlast : int64Limit - 1 ≤ ((2 ^ 63 : Nat) : Int) := by omega
    exact hlast.trans (Int.ofNat_le.2 hpast)
  next => rfl

theorem finite_mul_finite (s t : Bool) (i j : Fin indexLimit) :
    (finite s i * finite t j : Binary64) =
      ofUnits (s != t) (units i.val * units j.val) unitsPerOne := by
  change mul (finite s i) (finite t j) = _
  rw [mul]

/-- A whole number is rounded up by one part in `2 ^ 53` at most. -/
theorem exists_ofNat_eq (hlt : n * unitsPerOne < overflow) :
    ∃ i : Fin indexLimit, ofNat n = .finite false i ∧
      units i.val * 2 ^ 53 ≤ n * unitsPerOne * (2 ^ 53 + 1) := by
  obtain ⟨i, hfinite, hindex⟩ :=
    @ofUnits_of_lt (n * unitsPerOne) 1 false Nat.one_pos (by rwa [Nat.mul_one])
  refine ⟨i, hfinite, ?_⟩
  rw [hindex]
  rcases Nat.eq_zero_or_pos n with rfl | hn
  · have hzero : units (indexOf 0 1) = 0 := by decide
    rw [Nat.zero_mul, hzero, Nat.zero_mul]
    exact Nat.zero_le _
  · have hlarge : 1 * 2 ^ 52 ≤ n * unitsPerOne := by
      obtain ⟨e, he, hunits⟩ := exists_unitsPerOne_eq
      rw [hunits, Nat.one_mul]
      exact (Nat.pow_le_pow_right (by decide) (by omega)).trans (Nat.le_mul_of_pos_left _ hn)
    have hrounded := units_indexOf_mul_le Nat.one_pos hlarge
    rwa [Nat.mul_one] at hrounded

/-- A product of whole numbers stays finite when it leaves room for three roundings. -/
theorem isFinite_ofNat_mul_ofNat (hm : m * unitsPerOne < overflow) (hn : n * unitsPerOne < overflow)
    (h : m * n * unitsPerOne * (2 ^ 53 + 1) ^ 2 < overflow * 2 ^ 106) :
    (ofNat m * ofNat n).isFinite = true := by
  obtain ⟨i, hi, hunitsi⟩ := exists_ofNat_eq hm
  obtain ⟨j, hj, hunitsj⟩ := exists_ofNat_eq hn
  have hlt : units i.val * units j.val < overflow * unitsPerOne := by
    apply Nat.lt_of_mul_lt_mul_right (a := 2 ^ 106)
    calc units i.val * units j.val * 2 ^ 106
        = units i.val * 2 ^ 53 * (units j.val * 2 ^ 53) := by ring
      _ ≤ m * unitsPerOne * (2 ^ 53 + 1) * (n * unitsPerOne * (2 ^ 53 + 1)) :=
        Nat.mul_le_mul hunitsi hunitsj
      _ = m * n * unitsPerOne * (2 ^ 53 + 1) ^ 2 * unitsPerOne := by ring
      _ < overflow * 2 ^ 106 * unitsPerOne := Nat.mul_lt_mul_of_pos_right h unitsPerOne_pos
      _ = overflow * unitsPerOne * 2 ^ 106 := by ring
  obtain ⟨k, hproduct, -⟩ := @ofUnits_of_lt _ _ (false != false) unitsPerOne_pos hlt
  rw [hi, hj, finite_mul_finite, hproduct]
  rfl

theorem AtMost.mul (hx : x.AtMost m) (hy : y.AtMost n) (h : m + n < 1024) :
    (x * y).AtMost (m + n) := by
  obtain ⟨s, i, rfl, hi⟩ := hx
  obtain ⟨t, j, rfl, hj⟩ := hy
  rw [finite_mul_finite]
  refine atMost_ofUnits _ unitsPerOne_pos h ?_
  calc units i.val * units j.val ≤ 2 ^ m * unitsPerOne * (2 ^ n * unitsPerOne) :=
        Nat.mul_le_mul hi hj
    _ = 2 ^ (m + n) * unitsPerOne * unitsPerOne := by ring

theorem units_zero : units 0 = 0 := by decide

theorem AtMost.div (hx : x.AtMost m) (hy : y.AtLeastOne) (hm : m < 1024) : (x / y).AtMost m := by
  obtain ⟨s, i, rfl, hi⟩ := hx
  obtain ⟨t, j, rfl, hj⟩ := hy
  have hpos : 0 < units j.val := unitsPerOne_pos.trans_le hj
  have hne : j.val ≠ 0 := by
    intro hzero
    rw [hzero, units_zero] at hpos
    exact Nat.lt_irrefl 0 hpos
  have hquotient : (finite s i / finite t j : Binary64) =
      ofUnits (s != t) (units i.val * unitsPerOne) (units j.val) := if_neg hne
  rw [hquotient]
  exact atMost_ofUnits _ hpos hm (Nat.mul_le_mul hi hj)

end Sizes

end ShopSync.Number.Binary64
