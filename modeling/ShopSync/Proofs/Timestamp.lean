import Mathlib.Tactic
import ShopSync.Proofs.Calendar
import ShopSync.Proofs.Json.Scan
import ShopSync.Timestamp

/-!
Timestamps read back.

In the years 0 to 9999 the text of a timestamp is read as that timestamp, down to the nanosecond:
every part of the form has its width, and the zeros that a fraction leaves out are put back.  In
other years the text is a number of seconds, which is refused, so no text is read as another
timestamp than the one it was written for (`text_reads_back`).
-/

namespace ShopSync.Timestamp

open Number (isDigit ofDigits paddedDigits)
open Calendar (Date)

/-! ### Parts of a width -/

theorem digitsOnly?_paddedDigits (width n : Nat) : digitsOnly? (paddedDigits width n) = some n := by
  rw [digitsOnly?, if_pos (Number.all_isDigit_paddedDigits width n), Number.ofDigits_paddedDigits]

theorem exists_paddedDigits_two {n : Nat} (h : n < 100) : ∃ a b, paddedDigits 2 n = [a, b] :=
  List.length_eq_two.1 (Number.length_paddedDigits (by decide) h)

theorem exists_paddedDigits_four {n : Nat} (h : n < 10000) :
    ∃ a b c d, paddedDigits 4 n = [a, b, c, d] := by
  have hlength : (paddedDigits 4 n).length = 4 := Number.length_paddedDigits (by decide) h
  match hcs : paddedDigits 4 n, hlength with
  | [a, b, c, d], _ => exact ⟨a, b, c, d, rfl⟩

/-! ### Fractions -/

theorem fractionDigits_append_zeros (nanos : Nat) :
    ∃ k, fractionDigits nanos ++ List.replicate k '0' = paddedDigits 9 nanos := by
  refine ⟨((paddedDigits 9 nanos).reverse.takeWhile (· == '0')).length, ?_⟩
  have hzeros : (paddedDigits 9 nanos).reverse.takeWhile (· == '0') =
      List.replicate ((paddedDigits 9 nanos).reverse.takeWhile (· == '0')).length '0' :=
    List.eq_replicate_of_mem fun c hc => by simpa using List.mem_takeWhile_imp hc
  rw [← List.reverse_inj, List.reverse_append, List.reverse_replicate, ← hzeros, fractionDigits,
    List.reverse_reverse, List.takeWhile_append_dropWhile]

theorem all_isDigit_fractionDigits (nanos : Nat) : (fractionDigits nanos).all isDigit = true := by
  obtain ⟨k, hk⟩ := fractionDigits_append_zeros nanos
  have hall := Number.all_isDigit_paddedDigits 9 nanos
  rw [← hk, List.all_append, Bool.and_eq_true] at hall
  exact hall.1

theorem fractionDigits_ne_nil {nanos : Nat} (h : nanos ≠ 0) : fractionDigits nanos ≠ [] := by
  obtain ⟨k, hk⟩ := fractionDigits_append_zeros nanos
  intro hnil
  rw [hnil, List.nil_append] at hk
  have hvalue := Number.ofDigits_paddedDigits 9 nanos
  rw [← hk, Number.ofDigits_eq, Nat.ofDigitChars_replicate_zero, Nat.mul_zero] at hvalue
  exact h hvalue.symm

theorem ofDigits_fractionDigits {nanos : Nat} (h : nanos < nanosPerSecond) :
    ofDigits ((fractionDigits nanos ++ List.replicate 9 '0').take 9) = nanos := by
  obtain ⟨k, hk⟩ := fractionDigits_append_zeros nanos
  have hlength : (paddedDigits 9 nanos).length = 9 := Number.length_paddedDigits (by decide) h
  have hk9 : k ≤ 9 := by
    rw [← hk, List.length_append, List.length_replicate] at hlength
    omega
  have hsplit : List.replicate 9 '0' = List.replicate k '0' ++ List.replicate (9 - k) '0' := by
    rw [List.replicate_append_replicate, Nat.add_sub_cancel' hk9]
  rw [hsplit, ← List.append_assoc, hk, List.take_append_of_le_length (Nat.le_of_eq hlength.symm),
    List.take_of_length_le (Nat.le_of_eq hlength), Number.ofDigits_paddedDigits]

theorem fraction?_written {nanos : Nat} (h : nanos < nanosPerSecond) :
    fraction? ((if nanos = 0 then [] else '.' :: fractionDigits nanos) ++ ['Z']) =
      some (nanos, ['Z']) := by
  split
  case isTrue hzero =>
    rw [hzero]
    rfl
  case isFalse hne =>
    obtain ⟨htake, hdrop⟩ := Json.span_append (all_isDigit_fractionDigits nanos)
      (show ∀ c, ['Z'].head? = some c → isDigit c = false by rintro c ⟨⟩; rfl)
    have hempty : (fractionDigits nanos).isEmpty = false := by
      simpa using fractionDigits_ne_nil hne
    rw [List.cons_append, fraction?]
    simp only [htake, hdrop, hempty, Bool.false_eq_true, if_false, ofDigits_fractionDigits h]

/-! ### The whole form -/

/-- What is written in the form of RFC 3339 is read as its parts. -/
theorem ofChars?_rfc3339 {date : Date} {second nanos : Nat} (hlow : 0 ≤ date.year)
    (hhigh : date.year ≤ 9999) (hmonth : date.month < 100) (hday : date.day < 100)
    (hsecond : second < secondsPerDay) (hnanos : nanos < nanosPerSecond) :
    ofChars? (rfc3339 date second nanos) =
      ofCivil? date (second / 3600) (second / 60 % 60) (second % 60) nanos := by
  rw [secondsPerDay] at hsecond
  obtain ⟨y1, y2, y3, y4, hy⟩ := exists_paddedDigits_four (n := date.year.toNat) (by omega)
  obtain ⟨m1, m2, hm⟩ := exists_paddedDigits_two hmonth
  obtain ⟨d1, d2, hd⟩ := exists_paddedDigits_two hday
  obtain ⟨h1, h2, hh⟩ := exists_paddedDigits_two (n := second / 3600) (by omega)
  obtain ⟨n1, n2, hn⟩ := exists_paddedDigits_two (n := second / 60 % 60) (by omega)
  obtain ⟨s1, s2, hs⟩ := exists_paddedDigits_two (n := second % 60) (by omega)
  have hdate : ({ year := (date.year.toNat : Int), month := date.month, day := date.day } : Date) =
      date := by
    rw [Int.toNat_of_nonneg hlow]
  rw [rfc3339, hy, hm, hd, hh, hn, hs]
  simp only [List.cons_append, List.nil_append, ofChars?]
  rw [← hy, ← hm, ← hd, ← hh, ← hn, ← hs]
  simp only [digitsOnly?_paddedDigits, fraction?_written hnanos, Option.bind_eq_bind,
    Option.bind_some, hdate]
  rfl

/-! ### Dates and times of day -/

theorem isValid_civil (t : Timestamp) : t.civil.1.isValid = true :=
  Calendar.isValid_dateOf _

theorem second_civil_lt (t : Timestamp) : t.civil.2 < secondsPerDay := by
  simp only [civil, secondsPerDay]
  omega

theorem dayNumber_civil (t : Timestamp) :
    Calendar.dayNumber t.civil.1 * (secondsPerDay : Int) + t.civil.2 = t.seconds := by
  have hnumber : Calendar.dayNumber t.civil.1 = t.seconds / secondsPerDay :=
    Calendar.dayNumber_dateOf _
  have hsecond : t.civil.2 = (t.seconds % secondsPerDay).toNat := rfl
  rw [hnumber, hsecond, secondsPerDay]
  omega

/-- The date and the time of day of a timestamp are those of no other one. -/
theorem ofCivil?_civil (t : Timestamp) :
    ofCivil? t.civil.1 (t.civil.2 / 3600) (t.civil.2 / 60 % 60) (t.civil.2 % 60) t.nanos =
      some t := by
  have hsecond := t.second_civil_lt
  rw [secondsPerDay] at hsecond
  have hlate : ¬(23 < t.civil.2 / 3600 ∨ 59 < t.civil.2 / 60 % 60) := by omega
  have hminute : t.civil.2 % 60 < 60 := Nat.mod_lt _ (by decide)
  have hseconds : Calendar.dayNumber t.civil.1 * (secondsPerDay : Int) +
      (t.civil.2 / 3600 * 3600 + t.civil.2 / 60 % 60 * 60 : Nat) + (t.civil.2 % 60 : Nat) =
        t.seconds := by
    have hmade := t.dayNumber_civil
    omega
  rw [ofCivil?, if_neg (by simpa [isValid_civil] using hlate), if_neg (Nat.ne_of_lt hminute)]
  simp only [hseconds]
  rw [dif_pos ⟨decide_eq_true hminute, t.first_le, t.le_last, t.nanos_lt⟩]

/-! ### Texts -/

/-- The year is one that the form of RFC 3339 has room for. -/
def HasForm (t : Timestamp) : Prop := 0 ≤ t.civil.1.year ∧ t.civil.1.year ≤ 9999

instance (t : Timestamp) : Decidable t.HasForm := by unfold HasForm; infer_instance

/-- A timestamp in the years 0 to 9999 is what its text stands for. -/
theorem parse_text {t : Timestamp} (h : t.HasForm) : parse t.text = .ok t := by
  have hmonth : t.civil.1.month ≤ 12 := Calendar.month_dateOf_le _
  have hday : t.civil.1.day ≤ 31 := Calendar.day_le_of_isValid t.isValid_civil
  have htext : t.text = String.ofList (rfc3339 t.civil.1 t.civil.2 t.nanos) := if_pos h
  rw [parse, htext, String.toList_ofList,
    ofChars?_rfc3339 h.1 h.2 (by omega) (by omega) t.second_civil_lt t.nanos_lt, ofCivil?_civil]

/-- The first second of the year 0. -/
def firstFormSecond : Int := -62167219200

theorem year_civil_le (t : Timestamp) : t.civil.1.year ≤ 9999 := by
  have hyear : t.civil.1.year = Calendar.yearOf (t.seconds / secondsPerDay + Calendar.epochDay) :=
    rfl
  have hlast : t.seconds ≤ lastSecond := t.le_last
  have hhigh := @Calendar.le_yearOf_iff 10000 (t.seconds / secondsPerDay + Calendar.epochDay)
  have hend : Calendar.daysBeforeYear 10000 = 3652425 := rfl
  rw [hend, ← hyear] at hhigh
  simp only [lastSecond, secondsPerDay, Calendar.epochDay] at *
  omega

theorem hasForm_of_year_nonneg {t : Timestamp} (h : 0 ≤ t.civil.1.year) : t.HasForm :=
  ⟨h, t.year_civil_le⟩

theorem hasForm_iff {t : Timestamp} : t.HasForm ↔ firstFormSecond ≤ t.seconds := by
  have hyear : t.civil.1.year = Calendar.yearOf (t.seconds / secondsPerDay + Calendar.epochDay) :=
    rfl
  have hlow := @Calendar.le_yearOf_iff 0 (t.seconds / secondsPerDay + Calendar.epochDay)
  have hstart : Calendar.daysBeforeYear 0 = 0 := rfl
  rw [HasForm, and_iff_left t.year_civil_le, hyear, hlow, hstart]
  simp only [firstFormSecond, secondsPerDay, Calendar.epochDay]
  omega

theorem hasForm_of_nonneg {t : Timestamp} (h : 0 ≤ t.seconds) : t.HasForm := by
  rw [hasForm_iff, firstFormSecond]
  omega

theorem hasForm_subDays (t : Timestamp) (days : Int) : (t.subDays days).HasForm := by
  apply hasForm_of_nonneg
  unfold subDays
  dsimp only
  split
  next hmoved =>
    split
    · exact hmoved
    · decide
  next => decide

/-- A text has four digits for the year. -/
theorem hasForm_of_parse {s : String} {t : Timestamp} (h : parse s = .ok t) : t.HasForm := by
  -- a date in the years from 0 on is not before the first day of the year 0
  have hcivil {date : Date} {hour minute second nanos : Nat} (hyear : 0 ≤ date.year)
      (h : ofCivil? date hour minute second nanos = some t) : t.HasForm := by
    have hdays := Calendar.daysBeforeYear_mono hyear
    have hstart : Calendar.daysBeforeYear 0 = 0 := rfl
    unfold ofCivil? at h
    split at h
    · cases h
    next hvalid =>
      have hday : 1 ≤ date.day := by
        simp only [Bool.or_eq_true, not_or, Bool.not_eq_true', Bool.not_eq_false, Date.isValid,
          Bool.and_eq_true, decide_eq_true_eq] at hvalid
        exact hvalid.1.1.1
      -- the sixtieth second of a minute counts as the one before it
      dsimp only at h
      split at h
      all_goals
        dsimp only at h
        split at h
        next =>
          cases h
          rw [hasForm_iff]
          simp only [Calendar.dayNumber, firstFormSecond, secondsPerDay, Calendar.epochDay]
          omega
        next => cases h
  unfold parse at h
  cases hchars : ofChars? s.toList with
  | none =>
    rw [hchars] at h
    cases h
  | some t' =>
    rw [hchars] at h
    cases h
    unfold ofChars? at hchars
    split at hchars
    · obtain ⟨year, -, hchars⟩ := Option.bind_eq_some_iff.1 hchars
      obtain ⟨month, -, hchars⟩ := Option.bind_eq_some_iff.1 hchars
      obtain ⟨day, -, hchars⟩ := Option.bind_eq_some_iff.1 hchars
      obtain ⟨hour, -, hchars⟩ := Option.bind_eq_some_iff.1 hchars
      obtain ⟨minute, -, hchars⟩ := Option.bind_eq_some_iff.1 hchars
      obtain ⟨second, -, hchars⟩ := Option.bind_eq_some_iff.1 hchars
      obtain ⟨⟨nanos, zone⟩, -, hchars⟩ := Option.bind_eq_some_iff.1 hchars
      dsimp only at hchars
      split at hchars
      · exact hcivil (Int.natCast_nonneg year) hchars
      · cases hchars
    · cases hchars

/-! ### Texts that are no form -/

theorem isDigit_of_ofChars? {c : Char} {cs : List Char} {t : Timestamp}
    (h : ofChars? (c :: cs) = some t) : isDigit c = true := by
  unfold ofChars? at h
  split at h
  next heq =>
    obtain ⟨year, hyear, -⟩ := Option.bind_eq_some_iff.1 h
    have hdigits := (Option.ite_none_right_eq_some.1 hyear).1
    obtain ⟨rfl, -⟩ := List.cons.inj heq
    simp only [List.all_cons, Bool.and_eq_true] at hdigits
    exact hdigits.1
  next => cases h

/-- Before the year 0 the seconds are written, with a sign in front of them, and no text of a
timestamp has a sign there. -/
theorem parse_text_of_not_hasForm {t : Timestamp} (h : ¬t.HasForm) :
    parse t.text = .error (.timestampNotUtc t.text) := by
  have hnegative : t.seconds < 0 := by
    rw [hasForm_iff, firstFormSecond] at h
    omega
  obtain ⟨n, hn⟩ : ∃ n : Nat, t.seconds = Int.negSucc n := Int.eq_negSucc_of_lt_zero hnegative
  have htext : t.text = String.ofList ('-' :: Number.digits (n + 1)) := by
    have hseconds : t.text = String.ofList (Number.integerText t.seconds) := if_neg h
    rw [hseconds, hn]
    rfl
  have hnone : ofChars? t.text.toList = none := by
    rw [Option.eq_none_iff_forall_ne_some]
    intro u hu
    rw [htext, String.toList_ofList] at hu
    have hdigit := isDigit_of_ofChars? hu
    revert hdigit
    decide
  rw [parse, hnone]

/-! ### Seconds -/

/-- A second is accepted in the years -9999 to 9999, and gives its start. -/
theorem ofUnixSeconds_eq_ok_iff {n : Int} {t : Timestamp} :
    ofUnixSeconds n = .ok t ↔ t.seconds = n ∧ t.nanos = 0 := by
  unfold ofUnixSeconds
  constructor
  · intro h
    split at h
    · cases h
      exact ⟨rfl, rfl⟩
    · cases h
  · rintro ⟨rfl, hnanos⟩
    rw [dif_pos ⟨t.first_le, t.le_last⟩]
    cases t
    cases hnanos
    rfl

/-- The timestamp is the start of the second in which the other one lies. -/
def StartsSecondOf (start t : Timestamp) : Prop := start.civil = t.civil ∧ start.nanos = 0

/-- **Timestamps survive printing and reading.**  The date and the second of the day of a timestamp
are those of the calendar.  In the years 0 to 9999 its text is read as that timestamp, and in other
years its text is refused.  What is read of any text is read again of the text that is written for
it.  A second that is accepted has its own number, and the number of the second of a timestamp gives
the start of that second. -/
theorem text_reads_back :
    (∀ t : Timestamp, t.civil.1.isValid = true ∧ t.civil.2 < secondsPerDay ∧
      Calendar.dayNumber t.civil.1 * (secondsPerDay : Int) + t.civil.2 = t.seconds) ∧
    (∀ t : Timestamp, 0 ≤ t.civil.1.year ∧ t.civil.1.year ≤ 9999 → parse t.text = .ok t) ∧
    (∀ t : Timestamp, ¬(0 ≤ t.civil.1.year ∧ t.civil.1.year ≤ 9999) →
      parse t.text = .error (.timestampNotUtc t.text)) ∧
    (∀ s t, parse s = .ok t → parse t.text = .ok t) ∧
    (∀ n, firstSecond ≤ n ∧ n ≤ lastSecond ↔ ∃ t, ofUnixSeconds n = .ok t ∧ t.unixSeconds = n) ∧
    ∀ t : Timestamp, ∃ start, ofUnixSeconds t.unixSeconds = .ok start ∧ start.StartsSecondOf t := by
  refine ⟨fun t => ⟨t.isValid_civil, t.second_civil_lt, t.dayNumber_civil⟩,
    fun t ht => parse_text ht, fun t ht => parse_text_of_not_hasForm ht,
    fun s t hs => parse_text (hasForm_of_parse hs), fun n => ⟨?_, ?_⟩, fun t => ?_⟩
  · rintro ⟨hfirst, hlast⟩
    have hnanos : 0 < nanosPerSecond := by decide
    exact ⟨⟨n, 0, hfirst, hlast, hnanos⟩, ofUnixSeconds_eq_ok_iff.2 ⟨rfl, rfl⟩, rfl⟩
  · rintro ⟨t, -, rfl⟩
    exact ⟨t.first_le, t.le_last⟩
  · have hnanos : 0 < nanosPerSecond := by decide
    exact ⟨⟨t.seconds, 0, t.first_le, t.le_last, hnanos⟩,
      ofUnixSeconds_eq_ok_iff.2 ⟨rfl, rfl⟩, rfl, rfl⟩

/-- The sixtieth second of a year's last minute, written in another way than its own, the last
second before the year 0, and half a second before 1970. -/
theorem text_reads_back_leapSecond :
    let leap : Timestamp := ⟨1483228799, 999999999, by decide, by decide, by decide⟩
    let early : Timestamp := ⟨-62167219201, 5, by decide, by decide, by decide⟩
    let half : Timestamp := ⟨-1, 500000000, by decide, by decide, by decide⟩
    parse "2016-12-31 23:59:60z" = .ok leap ∧ parse leap.text = .ok leap ∧
      leap.text = "2016-12-31T23:59:59.999999999Z" ∧
      early.civil.1.year = -1 ∧ parse early.text = .error (.timestampNotUtc "-62167219201") ∧
      half.civil.1 = { year := 1969, month := 12, day := 31 } ∧
      ∃ start, ofUnixSeconds (-1) = .ok start ∧ start.StartsSecondOf half := by
  intro leap early half
  obtain ⟨-, -, hother, hread, -, hstart⟩ := text_reads_back
  have hleap : parse "2016-12-31 23:59:60z" = .ok leap := by decide +kernel
  have hyear : early.civil.1.year = -1 := by decide +kernel
  have htext : early.text = "-62167219201" := by decide +kernel
  have hrefused := hother early (by rw [hyear]; decide)
  rw [htext] at hrefused
  have hwritten : leap.text = "2016-12-31T23:59:59.999999999Z" := by decide +kernel
  have hhalf : half.civil.1 = { year := 1969, month := 12, day := 31 } := by decide +kernel
  exact ⟨hleap, hread _ leap hleap, hwritten, hyear, htext ▸ hrefused, hhalf, hstart half⟩

end ShopSync.Timestamp
