import Mathlib.Tactic
import ShopSync.Number.Digits

/-!
Decimal digits and what they spell.

Writing a whole number and reading it back gives the number again: for the digits of a natural
number, with or without leading zeros, and for whole numbers with a sign.
-/

namespace ShopSync.Number

/-! ### Single digits -/

theorem isDigit_eq (c : Char) : isDigit c = c.isDigit := by
  simp [isDigit, Char.isDigit, Char.le_def]

theorem ofDigits_eq (cs : List Char) : ofDigits cs = Nat.ofDigitChars 10 cs 0 := rfl

theorem isDigit_zero : isDigit '0' = true := by decide

theorem ne_sign_of_isDigit {c : Char} (h : isDigit c = true) : c ≠ '-' ∧ c ≠ '+' := by
  constructor <;> rintro rfl <;> revert h <;> decide

/-! ### The digits of a natural number -/

theorem digits_ne_nil (n : Nat) : digits n ≠ [] := Nat.toDigits_ne_nil

theorem isDigit_of_mem_digits {n : Nat} {c : Char} (h : c ∈ digits n) : isDigit c = true := by
  rw [isDigit_eq]
  exact Nat.isDigit_of_mem_toDigits (by decide) (by decide) h

theorem all_isDigit_digits (n : Nat) : (digits n).all isDigit = true :=
  List.all_eq_true.2 fun _ h => isDigit_of_mem_digits h

theorem ofDigits_digits (n : Nat) : ofDigits (digits n) = n := by
  rw [ofDigits_eq]
  exact Nat.ofDigitChars_ten_toDigits

theorem digits_of_lt_ten {n : Nat} (h : n < 10) : digits n = [n.digitChar] :=
  Nat.toDigits_of_lt_base h

theorem head?_digits_ne_zero {n : Nat} (h : 0 < n) : (digits n).head? ≠ some '0' := by
  induction n using Nat.strong_induction_on with
  | _ n ih =>
    by_cases hn : n < 10
    · rw [digits_of_lt_ten hn]
      interval_cases n <;> decide
    · have hstep : digits n = digits (n / 10) ++ [(n % 10).digitChar] :=
        Nat.toDigits_of_base_le (by decide) (by omega)
      rw [hstep, List.head?_append_of_ne_nil _ (digits_ne_nil _)]
      exact ih (n / 10) (by omega) (by omega)

theorem length_digits_le {n width : Nat} (hw : 0 < width) (h : n < 10 ^ width) :
    (digits n).length ≤ width :=
  (Nat.length_toDigits_le_iff (by decide) hw).2 h

/-- A zero that leads stands alone. -/
theorem length_digits_eq_one {n : Nat} (h : (digits n).head? = some '0') :
    (digits n).length = 1 := by
  have hn : n = 0 := by
    by_contra hne
    exact head?_digits_ne_zero (Nat.pos_of_ne_zero hne) h
  rw [hn]
  rfl

theorem natural?_digits (n : Nat) : natural? (digits n) = some n := by
  have hne : (digits n).isEmpty = false := by
    rw [List.isEmpty_eq_false_iff]
    exact digits_ne_nil n
  rw [natural?, hne, all_isDigit_digits, ofDigits_digits]
  rfl

theorem digits_injective : Function.Injective digits := by
  intro n n' h
  have hread := natural?_digits n
  rw [h, natural?_digits] at hread
  exact (Option.some.inj hread).symm

/-! ### Whole numbers -/

theorem integer?_digits (n : Nat) : integer? (digits n) = some (n : Int) := by
  obtain ⟨c, cs, hcs⟩ := List.exists_cons_of_ne_nil (digits_ne_nil n)
  have hc : isDigit c = true := isDigit_of_mem_digits (by rw [hcs]; exact List.mem_cons_self)
  have hnat := natural?_digits n
  rw [hcs] at hnat ⊢
  unfold integer?
  split
  · exact absurd rfl (ne_sign_of_isDigit (by simp_all)).1
  · exact absurd rfl (ne_sign_of_isDigit (by simp_all)).2
  · rw [hnat]
    rfl

/-- Reading a whole number gives the number that was written. -/
theorem integer?_integerText (n : Int) : integer? (integerText n) = some n := by
  cases n with
  | ofNat n => exact integer?_digits n
  | negSucc n =>
    change (natural? (digits (n + 1))).map (fun n => -(n : Int)) = _
    rw [natural?_digits]
    rfl

theorem integerText_injective : Function.Injective integerText := by
  intro n n' h
  have hread := integer?_integerText n
  rw [h, integer?_integerText] at hread
  exact (Option.some.inj hread).symm

/-! ### Leading zeros -/

theorem ofDigits_paddedDigits (width n : Nat) : ofDigits (paddedDigits width n) = n := by
  rw [paddedDigits, ofDigits_eq, Nat.ofDigitChars_append, Nat.ofDigitChars_replicate_zero,
    Nat.mul_zero]
  exact ofDigits_digits n

theorem all_isDigit_paddedDigits (width n : Nat) :
    (paddedDigits width n).all isDigit = true := by
  rw [paddedDigits, List.all_append, all_isDigit_digits, Bool.and_true, List.all_replicate]
  simp [isDigit_zero]

theorem length_paddedDigits {width n : Nat} (hw : 0 < width) (h : n < 10 ^ width) :
    (paddedDigits width n).length = width := by
  have := length_digits_le hw h
  rw [paddedDigits, List.length_append, List.length_replicate]
  omega

end ShopSync.Number
