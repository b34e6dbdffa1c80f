import Mathlib.Tactic
import ShopSync.Proofs.Json.Numeral
import ShopSync.Proofs.Number.Binary64

/-!
Values of numerals.

Whatever a numeral spells, its value is one that a document has room for: a whole number of 64
bits or a finite floating-point number.  A floating-point numeral has a value when no digit in front
of its point is dropped and the exact number stays below the overflow by more than two roundings
can add.
-/

namespace ShopSync.Json

open ShopSync.Number

/-- A number that a numeral can stand for. -/
def Number.IsSound : Number → Prop
  | .integer n => IsWord n
  | .real x => x.isFinite = true

/-! ### Collecting digits -/

section Collect

variable {n : Nat} {cs : List Char}

/-- What is collected is a word, and no more than what all the digits spell. -/
theorem collect_spec (hn : n < UInt64.size) (cs : List Char) :
    (collect n cs).1 < UInt64.size ∧
      (collect n cs).1 * 10 ^ (collect n cs).2.length ≤ Nat.ofDigitChars 10 cs n ∧
      (collect n cs).2.length ≤ cs.length := by
  induction cs generalizing n with
  | nil => exact ⟨hn, by simp [collect], le_refl _⟩
  | cons c cs ih =>
    unfold collect
    split
    next hfits =>
      obtain ⟨hword, hle, hlength⟩ := ih hfits
      exact ⟨hword, hle, Nat.le_succ_of_le hlength⟩
    next =>
      refine ⟨hn, ?_, le_refl _⟩
      rw [Nat.ofDigitChars_eq_ofDigitChars_zero, Nat.mul_comm]
      exact Nat.le_add_right _ _

theorem digitValue_le {c : Char} (h : isDigit c = true) : digitValue c ≤ 9 := by
  simp only [isDigit, Bool.and_eq_true, decide_eq_true_eq, Char.le_def,
    UInt32.le_iff_toNat_le] at h
  change 0x30 ≤ c.toNat ∧ c.toNat ≤ 0x39 at h
  unfold digitValue
  omega

/-- Where the digits spell a word, nothing is left over. -/
theorem collect_of_fits (hcs : cs.all isDigit = true)
    (h : (n + 1) * 10 ^ cs.length ≤ UInt64.size) :
    collect n cs = (Nat.ofDigitChars 10 cs n, []) := by
  induction cs generalizing n with
  | nil => rfl
  | cons c cs ih =>
    rw [List.all_cons, Bool.and_eq_true] at hcs
    have hdigit : digitValue c ≤ 9 := digitValue_le hcs.1
    have hnext : (10 * n + digitValue c + 1) * 10 ^ cs.length ≤ UInt64.size := by
      refine le_trans ?_ h
      rw [List.length_cons, Nat.pow_succ', ← Nat.mul_assoc]
      exact Nat.mul_le_mul_right _ (by omega)
    have hword : 10 * n + digitValue c < UInt64.size :=
      (Nat.le_mul_of_pos_right _ (Nat.pow_pos (by decide))).trans hnext
    rw [collect, if_pos hword]
    exact ih hcs.2 hnext

end Collect

/-! ### Scaling -/

section Scale

variable {x : Binary64} {m n word power : Nat}

theorem powerOfTen_lt (hn : n ≤ 308) : 10 ^ n * Binary64.unitsPerOne < Binary64.overflow := by
  refine lt_of_le_of_lt (Nat.mul_le_mul_right _ (Nat.pow_le_pow_right (by decide) hn)) ?_
  decide +kernel

theorem atLeastOne_powerOfTen (hn : n ≤ 308) : (powerOfTen n).AtLeastOne :=
  Binary64.atLeastOne_ofUnits _ (Nat.pow_pos (by decide)) (powerOfTen_lt hn)

theorem atMost_scaleDown (hx : x.AtMost m) (hm : m < 1024) (n : Nat) :
    (scaleDown x n).AtMost m := by
  induction n using Nat.strong_induction_on generalizing x with
  | _ n ih =>
    unfold scaleDown
    split
    next hsmall => exact hx.div (atLeastOne_powerOfTen hsmall) hm
    next hlarge =>
      split
      · exact hx
      · exact ih (n - 308) (by omega) (hx.div (atLeastOne_powerOfTen (le_refl 308)) hm)

theorem atMost_ofNat_word (h : word < UInt64.size) : (Binary64.ofNat word).AtMost 64 :=
  Binary64.atMost_ofNat (by decide) h.le

theorem isFinite_of_scaled? {exponent : Int} (hword : word < UInt64.size)
    (h : scaled? word exponent = some x) : x.isFinite = true := by
  unfold scaled? at h
  dsimp only at h
  split at h
  · cases h
    exact (atMost_scaleDown (atMost_ofNat_word hword) (by decide) _).isFinite
  · split at h
    · split at h
      next hfinite =>
        cases h
        exact hfinite
      · cases h
    · split at h
      · cases h
        exact (atMost_ofNat_word hword).isFinite
      · cases h

/-- What two roundings can add to a number: less than three parts in `2 ^ 53`. -/
def StaysFinite (n : Nat) : Prop :=
  n * Binary64.unitsPerOne * (2 ^ 53 + 1) ^ 2 < Binary64.overflow * 2 ^ 106

theorem staysFinite_word (h : word < UInt64.size) : StaysFinite word := by
  have hfactor : (2 ^ 53 + 1) ^ 2 ≤ 2 * 2 ^ 106 := by decide
  calc word * Binary64.unitsPerOne * (2 ^ 53 + 1) ^ 2
      ≤ 2 ^ 64 * Binary64.unitsPerOne * (2 * 2 ^ 106) :=
        Nat.mul_le_mul (Nat.mul_le_mul_right _ h.le) hfactor
    _ = 2 ^ 65 * Binary64.unitsPerOne * 2 ^ 106 := by ring
    _ < Binary64.overflow * 2 ^ 106 :=
        Nat.mul_lt_mul_of_pos_right (Binary64.pow_mul_unitsPerOne_lt (by decide)) (by decide)

theorem StaysFinite.le_of_pow (hword : 0 < word) (h : StaysFinite (word * 10 ^ power)) :
    power ≤ 308 := by
  have hlimit : Binary64.overflow ≤ 10 ^ (308 + 1) * Binary64.unitsPerOne := by decide +kernel
  by_contra hlarge
  have hpower (e : Nat) (he : e ≤ power) : 10 ^ e ≤ word * 10 ^ power :=
    (Nat.pow_le_pow_right (by decide) he).trans (Nat.le_mul_of_pos_left _ hword)
  have hfactor : 2 ^ 106 ≤ (2 ^ 53 + 1) ^ 2 := by decide
  exact Nat.lt_irrefl _ <| calc
    Binary64.overflow * 2 ^ 106 ≤ 10 ^ (308 + 1) * Binary64.unitsPerOne * (2 ^ 53 + 1) ^ 2 :=
        Nat.mul_le_mul hlimit hfactor
    _ ≤ word * 10 ^ power * Binary64.unitsPerOne * (2 ^ 53 + 1) ^ 2 :=
        Nat.mul_le_mul_right _ (Nat.mul_le_mul_right _ (hpower (308 + 1) (by omega)))
    _ < Binary64.overflow * 2 ^ 106 := h

theorem isFinite_mul_powerOfTen (hpower : power ≤ 308) (hword : word < UInt64.size)
    (h : StaysFinite (word * 10 ^ power)) :
    (Binary64.ofNat word * powerOfTen power).isFinite = true := by
  refine Binary64.isFinite_ofNat_mul_ofNat ?_ (powerOfTen_lt hpower) h
  calc word * Binary64.unitsPerOne ≤ 2 ^ 64 * Binary64.unitsPerOne :=
        Nat.mul_le_mul_right _ hword.le
    _ < Binary64.overflow := Binary64.pow_mul_unitsPerOne_lt (by decide)

/-- A word has a scaled value when nothing is multiplied, or when the product stays finite. -/
theorem isSome_scaled? {exponent : Int} (hword : word < UInt64.size)
    (h : ∀ power : Nat, 0 < power → exponent = power → StaysFinite (word * 10 ^ power)) :
    (scaled? word exponent).isSome := by
  unfold scaled?
  dsimp only
  split
  · rfl
  next hnonneg =>
    obtain ⟨power, rfl⟩ : ∃ power : Nat, exponent = power := ⟨exponent.toNat, by omega⟩
    have hstays : StaysFinite (word * 10 ^ power) := by
      rcases Nat.eq_zero_or_pos power with rfl | hpos
      · rw [Nat.pow_zero, Nat.mul_one]
        exact staysFinite_word hword
      · exact h power hpos rfl
    split
    next hsmall =>
      have hpower : power ≤ 308 := by omega
      rw [Int.toNat_natCast, if_pos (isFinite_mul_powerOfTen hpower hword hstays)]
      rfl
    next hlarge =>
      -- only zero is left
      have hzero : word = 0 := by
        by_contra hne
        have := hstays.le_of_pow (Nat.pos_of_ne_zero hne)
        omega
      rw [hzero, if_pos (by decide +kernel)]
      rfl

end Scale

/-! ### Values -/

theorem isFinite_withSign (x : Binary64) (s : Bool) : (x.withSign s).isFinite = x.isFinite := by
  cases x <;> rfl

namespace Literal

variable {literal : Literal}

/-- The word of a floating-point numeral and the power of ten it is scaled by. -/
theorem exists_real?_eq (literal : Literal) :
    ∃ (word : Nat) (exponent : Int), word < UInt64.size ∧
      literal.real? = (scaled? word exponent).map (Binary64.withSign literal.negative) := by
  have hfirst := (collect_spec (show 0 < UInt64.size by decide) literal.whole).1
  exact ⟨_, _, (collect_spec hfirst (literal.fraction.getD [])).1, rfl⟩

/-- The word has the digits up to some place, and the exponent counts from there. -/
theorem exists_real?_eq_of_length (hwhole : literal.whole.all isDigit = true)
    (hlength : literal.whole.length ≤ 19) :
    ∃ word left : Nat, word < UInt64.size ∧ left ≤ (literal.fraction.getD []).length ∧
      word * 10 ^ left ≤ ofDigits (literal.whole ++ literal.fraction.getD []) ∧
      literal.real? =
        (scaled? word (literal.exponent.getD 0 - (literal.fraction.getD []).length + left)).map
          (Binary64.withSign literal.negative) := by
  have hfits : (0 + 1) * 10 ^ literal.whole.length ≤ UInt64.size := by
    rw [Nat.zero_add, Nat.one_mul]
    exact (Nat.pow_le_pow_right (by decide) hlength).trans (by decide)
  have hcollect : collect 0 literal.whole = (ofDigits literal.whole, []) :=
    collect_of_fits hwhole hfits
  have hword : ofDigits literal.whole < UInt64.size := by
    have := (collect_spec (show 0 < UInt64.size by decide) literal.whole).1
    rwa [hcollect] at this
  obtain ⟨word, left, hrest⟩ : ∃ word left,
      collect (ofDigits literal.whole) (literal.fraction.getD []) = (word, left) := ⟨_, _, rfl⟩
  obtain ⟨hlt, hle, hleft⟩ := collect_spec hword (literal.fraction.getD [])
  rw [hrest] at hlt hle hleft
  refine ⟨word, left.length, hlt, hleft, ?_, ?_⟩
  · rw [ofDigits_eq, Nat.ofDigitChars_append]
    exact hle
  · have hexponent : ((([] : List Char).length : Int) -
        ((literal.fraction.getD []).length - left.length : Nat) + literal.exponent.getD 0) =
          literal.exponent.getD 0 - (literal.fraction.getD []).length + left.length := by
      dsimp only at hleft
      rw [List.length_nil, Nat.cast_sub hleft]
      omega
    unfold real?
    rw [hcollect]
    dsimp only
    rw [hrest, ← hexponent]

/-- A floating-point numeral has a value when what its digits spell stays finite, wherever the word
is cut off. -/
theorem isSome_real? (hwhole : literal.whole.all isDigit = true)
    (hlength : literal.whole.length ≤ 19)
    (h : ∀ word left power : Nat, left ≤ (literal.fraction.getD []).length →
      word * 10 ^ left ≤ ofDigits (literal.whole ++ literal.fraction.getD []) → 0 < power →
      literal.exponent.getD 0 - (literal.fraction.getD []).length + left = power →
      StaysFinite (word * 10 ^ power)) :
    literal.real?.isSome := by
  obtain ⟨word, left, hlt, hleft, hle, hreal⟩ := exists_real?_eq_of_length hwhole hlength
  rw [hreal, Option.isSome_map]
  exact isSome_scaled? hlt fun power hpos hpower => h word left power hleft hle hpos hpower

theorem isFinite_of_real? {x : Binary64} (h : literal.real? = some x) : x.isFinite = true := by
  obtain ⟨word, exponent, hword, hreal⟩ := exists_real?_eq literal
  rw [hreal] at h
  obtain ⟨y, hy, rfl⟩ := Option.map_eq_some_iff.1 h
  rw [isFinite_withSign]
  exact isFinite_of_scaled? hword hy

/-- The value of a numeral is one that a document has room for. -/
theorem isSound_of_number? {n : Number} (h : literal.number? = some n) : n.IsSound := by
  have hreal (h : literal.real?.map Number.real = some n) : n.IsSound := by
    obtain ⟨x, hx, rfl⟩ := Option.map_eq_some_iff.1 h
    exact isFinite_of_real? hx
  unfold number? at h
  dsimp only at h
  split at h
  · exact hreal h
  · split at h
    next hword =>
      cases h
      simp only [Bool.and_eq_true, decide_eq_true_eq] at hword
      refine ⟨?_, by exact_mod_cast hword.2⟩
      simp only [int64Limit]
      omega
    · split at h
      next hlow =>
        cases h
        simp only [Bool.and_eq_true, decide_eq_true_eq] at hlow
        obtain ⟨⟨-, hpos⟩, hlow⟩ := hlow
        refine ⟨by omega, ?_⟩
        have hsize : (0 : Int) < UInt64.size := by decide
        omega
      · exact hreal h

end Literal

end ShopSync.Json
