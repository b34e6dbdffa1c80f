import Mathlib.Tactic
import ShopSync.Calendar

/-!
Numbers of days and dates.

The days of a year follow those of the year before, and the average length of a year gives the
year of a day up to one; so `dateOf` finds a date that exists and has the number it was asked for.
-/

namespace ShopSync.Calendar

/-! ### Years -/

/-- Days in a year. -/
def daysInYear (leap : Bool) : Nat := if leap then 366 else 365

theorem isLeap_iff (year : Int) :
    isLeap year = true ↔ year % 4 = 0 ∧ (year % 100 ≠ 0 ∨ year % 400 = 0) := by
  simp [isLeap]

theorem daysBeforeYear_succ (year : Int) :
    daysBeforeYear (year + 1) = daysBeforeYear year + daysInYear (isLeap year) := by
  simp only [daysBeforeYear, daysInYear]
  by_cases hleap : isLeap year = true
  · rw [if_pos hleap]
    rw [isLeap_iff] at hleap
    omega
  · rw [if_neg hleap]
    rw [isLeap_iff] at hleap
    omega

/-- The year that is found for a day is the one in which the day lies. -/
theorem yearOf_spec (day : Int) :
    daysBeforeYear (yearOf day) ≤ day ∧ day < daysBeforeYear (yearOf day + 1) := by
  obtain ⟨guess, hguess⟩ : ∃ guess, day * 400 / 146097 = guess := ⟨_, rfl⟩
  -- the guess is off by at most one, in either direction
  have hlow : daysBeforeYear (guess - 1) ≤ day := by
    simp only [daysBeforeYear]
    omega
  have hhigh : day < daysBeforeYear (guess + 2) := by
    simp only [daysBeforeYear]
    omega
  simp only [yearOf, hguess]
  split
  · refine ⟨hlow, ?_⟩
    rwa [Int.sub_add_cancel]
  · split
    · refine ⟨by assumption, ?_⟩
      rwa [Int.add_assoc]
    · constructor <;> omega

theorem daysBeforeYear_mono {year year' : Int} (h : year ≤ year') :
    daysBeforeYear year ≤ daysBeforeYear year' := by
  simp only [daysBeforeYear]
  omega

theorem le_yearOf_iff {year day : Int} : year ≤ yearOf day ↔ daysBeforeYear year ≤ day := by
  obtain ⟨hle, hlt⟩ := yearOf_spec day
  constructor
  · intro h
    exact (daysBeforeYear_mono h).trans hle
  · intro h
    by_contra hless
    have hnext := daysBeforeYear_mono (show yearOf day + 1 ≤ year by omega)
    omega

/-! ### Months -/

theorem exists_length_filter_range {p : Nat → Bool} (hp : ∀ i j, i ≤ j → p j = true → p i = true)
    (n : Nat) :
    ∃ k ≤ n, ((List.range n).filter p).length = k ∧ ∀ i < n, p i = true ↔ i < k := by
  induction n with
  | zero => exact ⟨0, le_refl 0, rfl, fun i hi => absurd hi (Nat.not_lt_zero i)⟩
  | succ n ih =>
    obtain ⟨k, hk, hlength, hiff⟩ := ih
    by_cases hn : p n = true
    · refine ⟨n + 1, le_refl _, ?_, ?_⟩
      · rw [List.filter_eq_self.2 fun i hi => hp i n (by simpa [Nat.lt_succ_iff] using hi) hn,
          List.length_range]
      · intro i hi
        exact iff_of_true (hp i n (Nat.lt_succ_iff.1 hi) hn) hi
    · refine ⟨k, Nat.le_succ_of_le hk, ?_, ?_⟩
      · rw [List.range_succ, List.filter_append, List.filter_cons_of_neg hn, List.filter_nil,
          List.append_nil, hlength]
      · intro i hi
        rcases Nat.lt_succ_iff_lt_or_eq.1 hi with hi | rfl
        · exact hiff i hi
        · exact iff_of_false hn (by omega)

theorem daysBeforeMonth_mono (leap : Bool) : Monotone (daysBeforeMonth leap) :=
  monotone_nat_of_le_succ fun month => Nat.le_add_right _ (daysInMonth leap month)

theorem daysBeforeMonth_thirteen (leap : Bool) : daysBeforeMonth leap 13 = daysInYear leap := by
  cases leap <;> rfl

/-- The month that is found for a day of a year is the one in which the day lies. -/
theorem monthOf_spec {leap : Bool} {day : Nat} (h : day < daysInYear leap) :
    1 ≤ monthOf leap day ∧ monthOf leap day ≤ 12 ∧
      daysBeforeMonth leap (monthOf leap day) ≤ day ∧
      day < daysBeforeMonth leap (monthOf leap day + 1) := by
  obtain ⟨k, hk, hlength, hiff⟩ := exists_length_filter_range
    (p := fun m => decide (daysBeforeMonth leap (m + 1) ≤ day))
    (fun i j hij hj => by
      have := daysBeforeMonth_mono leap (Nat.succ_le_succ hij)
      simp only [decide_eq_true_eq] at hj ⊢
      exact this.trans hj) 12
  simp only [decide_eq_true_eq] at hiff
  rw [monthOf, hlength]
  have hpos : 0 < k := (hiff 0 (by decide)).1 (Nat.zero_le day)
  refine ⟨hpos, hk, ?_, ?_⟩
  · have := (hiff (k - 1) (by omega)).2 (by omega)
    rwa [Nat.sub_add_cancel hpos] at this
  · rcases hk.lt_or_eq with hlt | rfl
    · exact Nat.lt_of_not_le fun hle => Nat.lt_irrefl k ((hiff k hlt).1 hle)
    · rwa [daysBeforeMonth_thirteen]

/-! ### Dates -/

theorem toNat_dayOfYear (day : Int) :
    (day - daysBeforeYear (yearOf day)).toNat < daysInYear (isLeap (yearOf day)) ∧
      daysBeforeYear (yearOf day) + (day - daysBeforeYear (yearOf day)).toNat = day := by
  have hspec := yearOf_spec day
  have hsucc := daysBeforeYear_succ (yearOf day)
  omega

theorem dayNumber_dateOf (number : Int) : dayNumber (dateOf number) = number := by
  obtain ⟨hlt, hday⟩ := toNat_dayOfYear (number + epochDay)
  obtain ⟨-, -, hle, -⟩ := monthOf_spec hlt
  simp only [dayNumber, dateOf]
  omega

theorem month_dateOf_le (number : Int) : (dateOf number).month ≤ 12 :=
  (monthOf_spec (toNat_dayOfYear (number + epochDay)).1).2.1

theorem isValid_dateOf (number : Int) : (dateOf number).isValid = true := by
  obtain ⟨-, -, hle, hlt⟩ := monthOf_spec (toNat_dayOfYear (number + epochDay)).1
  rw [daysBeforeMonth] at hlt
  rw [Date.isValid, Bool.and_eq_true, decide_eq_true_eq, decide_eq_true_eq]
  simp only [dateOf]
  omega

theorem daysInMonth_le (leap : Bool) (month : Nat) : daysInMonth leap month ≤ 31 := by
  unfold daysInMonth
  split
  case h_2 => cases leap <;> decide
  all_goals decide

theorem day_le_of_isValid {date : Date} (h : date.isValid = true) : date.day ≤ 31 := by
  simp only [Date.isValid, Bool.and_eq_true, decide_eq_true_eq] at h
  exact h.2.trans (daysInMonth_le _ _)

end ShopSync.Calendar
