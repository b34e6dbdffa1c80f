import Mathlib
import ShopSync.Money

/-!
Codes of currencies.

A currency may be written in letters of either case and with blanks around it, and that is how it is
kept in a configuration.  What is read of it, there and again for every price, is always the same:
the three letters in capitals.
-/

namespace ShopSync

/-- A code as it is sent: three capital letters. -/
def IsCurrencyCode (code : String) : Prop :=
  code.toList.length = 3 ∧ ∀ c ∈ code.toList, 'A' ≤ c ∧ c ≤ 'Z'

section Codes

variable {input code : String} {c : Char}

theorem isAlpha_toUpper_iff : c.toUpper.isAlpha = true ↔ 'A' ≤ c.toUpper ∧ c.toUpper ≤ 'Z' := by
  rw [Char.isAlpha_toUpper_eq_isAlpha, ← Char.isUpper_toUpper_eq_isAlpha, Char.isUpper,
    decide_eq_true_eq]
  exact Iff.rfl

/-- A text is read as a code when that is what it says in capitals and without blanks around it. -/
theorem parseCurrency_eq_ok_iff :
    parseCurrency input = .ok code ↔
      code.toList = (Text.strip input.toList).map Char.toUpper ∧ IsCurrencyCode code := by
  unfold parseCurrency IsCurrencyCode
  dsimp only
  generalize hletters : (Text.strip input.toList).map Char.toUpper = letters
  have hcapitals : letters.all Char.isAlpha = true ↔ ∀ c ∈ letters, 'A' ≤ c ∧ c ≤ 'Z' := by
    rw [← hletters, List.all_eq_true, List.forall_mem_map, List.forall_mem_map]
    exact forall₂_congr fun c _ => isAlpha_toUpper_iff
  simp only [hcapitals]
  split
  case isTrue hcode =>
    rw [Except.ok.injEq]
    constructor
    · rintro rfl
      rw [String.toList_ofList]
      exact ⟨rfl, hcode⟩
    · rintro ⟨hsame, -⟩
      rw [← hsame, String.ofList_toList]
  case isFalse hno =>
    refine iff_of_false nofun ?_
    rintro ⟨hsame, hcode⟩
    rw [hsame] at hcode
    exact hno hcode

end Codes

end ShopSync
