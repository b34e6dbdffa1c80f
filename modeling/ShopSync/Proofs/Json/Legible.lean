import Mathlib.Tactic
import ShopSync.Proofs.Json.Literal
import ShopSync.Proofs.Number.Shortest

/-!
Legible numbers.

Every number that a numeral can stand for is written as a numeral that stands for a number again,
though not always for the same one.  For floating-point numbers this is a question of the largest
ones only: a shortest numeral may lie above its number, and reading it rounds twice more.
-/

namespace ShopSync.Json

open ShopSync.Number

/-! ### Numerals part by part -/

section Parts

variable {negative : Bool} {whole fraction rest : List Char} {e : Option Int}

/-- Digits as the whole part of a numeral: a leading zero stands alone. -/
structure IsWhole (whole : List Char) : Prop where
  digits : whole.all isDigit = true
  ne_nil : whole ≠ []
  zero : whole.head? = some '0' → whole.length = 1

theorem leadingDigits?_append {ds : List Char} (hds : ds.all isDigit = true) (hne : ds ≠ [])
    (hrest : ∀ c, rest.head? = some c → isDigit c = false) :
    leadingDigits? (ds ++ rest) = some (ds, rest) := by
  obtain ⟨htake, hdrop⟩ := span_append hds hrest
  have hempty : ds.isEmpty = false := by simpa using hne
  simp only [leadingDigits?, htake, hdrop, hempty, Bool.false_eq_true, if_false]

theorem unsigned?_fraction (hwhole : IsWhole whole) (hfraction : fraction.all isDigit = true)
    (hne : fraction ≠ []) (hrest : ∀ c, rest.head? = some c → isDigit c = false)
    (hexponent : exponentPart? rest = some e) :
    Literal.unsigned? negative (whole ++ '.' :: (fraction ++ rest)) =
      some { negative, whole, fraction := some fraction, exponent := e } := by
  have hpoint : ∀ c, ('.' :: (fraction ++ rest)).head? = some c → isDigit c = false := by
    rintro c ⟨⟩
    rfl
  have hzero : ¬(whole.head? = some '0' ∧ whole.length ≠ 1) := fun h => h.2 (hwhole.zero h.1)
  unfold Literal.unsigned?
  rw [leadingDigits?_append hwhole.digits hwhole.ne_nil hpoint]
  simp only [Option.bind_eq_bind, Option.bind_some, hzero, if_false,
    leadingDigits?_append hfraction hne hrest, hexponent]
  rfl

theorem unsigned?_exponent (hwhole : IsWhole whole) {cs : List Char}
    (hexponent : exponentPart? ('e' :: cs) = some e) :
    Literal.unsigned? negative (whole ++ 'e' :: cs) =
      some { negative, whole, fraction := none, exponent := e } := by
  have hletter : ∀ c, ('e' :: cs).head? = some c → isDigit c = false := by
    rintro c ⟨⟩
    rfl
  have hzero : ¬(whole.head? = some '0' ∧ whole.length ≠ 1) := fun h => h.2 (hwhole.zero h.1)
  unfold Literal.unsigned?
  rw [leadingDigits?_append hwhole.digits hwhole.ne_nil hletter]
  simp only [Option.bind_eq_bind, Option.bind_some, hzero, if_false]
  split
  next heq => cases heq
  next => rw [hexponent, Option.bind_some, Option.pure_def]

/-- The characters are a numeral with a point or an exponent, no digit is dropped in front of the
point, and its parts are these. -/
structure Spells (negative : Bool) (cs : List Char) (literal : Literal) : Prop where
  parsed : Literal.unsigned? negative cs = some literal
  isReal : (literal.fraction.isSome || literal.exponent.isSome) = true
  digits : literal.whole.all isDigit = true
  length_le : literal.whole.length ≤ 19

end Parts

/-! ### Digits of numerals -/

theorem all_isDigit_replicate_zero (k : Nat) : (List.replicate k '0').all isDigit = true := by
  rw [List.all_replicate]
  simp [isDigit_zero]

theorem all_isDigit_take {ds : List Char} (h : ds.all isDigit = true) (k : Nat) :
    (ds.take k).all isDigit = true :=
  List.all_eq_true.2 fun c hc => List.all_eq_true.1 h c (List.mem_of_mem_take hc)

theorem all_isDigit_drop {ds : List Char} (h : ds.all isDigit = true) (k : Nat) :
    (ds.drop k).all isDigit = true :=
  List.all_eq_true.2 fun c hc => List.all_eq_true.1 h c (List.mem_of_mem_drop hc)

theorem head?_take {ds : List Char} {k : Nat} (hk : 0 < k) : (ds.take k).head? = ds.head? := by
  cases k with
  | zero => exact absurd hk (Nat.lt_irrefl 0)
  | succ k => cases ds <;> rfl

/-! ### The two layouts -/

section Layouts

variable {n : Nat} {lead : Int}

/-- In positional layout nothing has an exponent. -/
theorem exists_spells_positional (negative : Bool) (hn : 0 < n ∨ lead = 0) (hlead : lead < 16) :
    ∃ literal, Spells negative (positionalText true (digits n) lead) literal ∧
      literal.exponent = none := by
  have hall := all_isDigit_digits n
  have hend : exponentPart? [] = some none := rfl
  have hnil : ∀ c, ([] : List Char).head? = some c → isDigit c = false := by
    rintro c ⟨⟩
  unfold positionalText
  split
  · -- zeros stand between the point and the first digit
    have hzero : IsWhole ['0'] := ⟨rfl, by decide, fun _ => rfl⟩
    have hfraction : (List.replicate ((-lead).toNat - 1) '0' ++ digits n).all isDigit = true := by
      rw [List.all_append, all_isDigit_replicate_zero, hall]
      rfl
    have hparsed := @unsigned?_fraction negative _ _ _ _ hzero hfraction
      (List.append_ne_nil_of_right_ne_nil _ (digits_ne_nil n)) hnil hend
    rw [List.append_nil] at hparsed
    exact ⟨_, ⟨hparsed, rfl, rfl, Nat.le_add_left 1 18⟩, rfl⟩
  next hnonneg =>
    dsimp only
    split
    next hshort =>
      -- zeros stand between the last digit and the point
      have hwhole : IsWhole
          (digits n ++ List.replicate (lead.toNat + 1 - (digits n).length) '0') := by
        refine ⟨?_, List.append_ne_nil_of_left_ne_nil (digits_ne_nil n) _, ?_⟩
        · rw [List.all_append, all_isDigit_replicate_zero, hall]
          rfl
        · intro hhead
          rw [List.head?_append_of_ne_nil _ (digits_ne_nil n)] at hhead
          rcases hn with hpos | hlead
          · exact absurd hhead (head?_digits_ne_zero hpos)
          · have hone := length_digits_eq_one hhead
            rw [List.length_append, List.length_replicate, hone, hlead]
            rfl
      have hparsed := @unsigned?_fraction negative _ ['0'] _ _ hwhole rfl (by decide) hnil hend
      rw [List.append_nil] at hparsed
      refine ⟨_, ⟨hparsed, rfl, hwhole.digits, ?_⟩, rfl⟩
      rw [List.length_append, List.length_replicate]
      omega
    next hlong =>
      have hwhole : IsWhole ((digits n).take (lead.toNat + 1)) := by
        refine ⟨all_isDigit_take hall _, ?_, ?_⟩
        · exact mt List.take_eq_nil_iff.1 (not_or.2 ⟨Nat.succ_ne_zero _, digits_ne_nil n⟩)
        · intro hhead
          rw [head?_take (Nat.succ_pos _)] at hhead
          have hone := length_digits_eq_one hhead
          omega
      have hne : (digits n).drop (lead.toNat + 1) ≠ [] := by
        rw [Ne, List.drop_eq_nil_iff]
        exact hlong
      have hparsed := @unsigned?_fraction negative _ _ _ _ hwhole
        (all_isDigit_drop hall (lead.toNat + 1)) hne hnil hend
      rw [List.append_nil] at hparsed
      refine ⟨_, ⟨hparsed, rfl, hwhole.digits, ?_⟩, rfl⟩
      exact (List.length_take_le _ _).trans (by omega)

theorem exponentPart?_written (lead : Int) :
    exponentPart? ('e' :: ((if true && decide (0 ≤ lead) then ['+'] else []) ++
      integerText lead)) = some (some lead) := by
  have hinteger : integer? ((if true && decide (0 ≤ lead) then ['+'] else []) ++
      integerText lead) = some lead := by
    cases lead with
    | ofNat n =>
      have hsign : (true && decide (0 ≤ Int.ofNat n)) = true := by simp
      rw [if_pos hsign]
      change (natural? (digits n)).map (fun n => (n : Int)) = _
      rw [natural?_digits]
      rfl
    | negSucc n => exact integer?_integerText (.negSucc n)
  unfold exponentPart?
  dsimp only
  rw [if_pos (.inl rfl), hinteger, Option.map_some]

/-- In the other layout the exponent is that of the first digit. -/
theorem exists_spells_exponent (negative : Bool) (n : Nat) (lead : Int) :
    ∃ literal, Spells negative (exponentText true (digits n) lead) literal ∧
      ofDigits (literal.whole ++ literal.fraction.getD []) = n ∧
      (literal.fraction.getD []).length = (digits n).length - 1 ∧
      literal.exponent = some lead := by
  have hall := all_isDigit_digits n
  have hlength : ((digits n).take 1).length ≤ 19 := (List.length_take_le _ _).trans (by decide)
  have hwhole : IsWhole ((digits n).take 1) := by
    obtain ⟨c, cs, hcs⟩ := List.exists_cons_of_ne_nil (digits_ne_nil n)
    refine ⟨all_isDigit_take hall 1, ?_, ?_⟩ <;> rw [hcs]
    · exact List.cons_ne_nil c []
    · exact fun _ => rfl
  have hletter : ∀ c, ('e' :: ((if true && decide (0 ≤ lead) then ['+'] else []) ++
      integerText lead)).head? = some c → isDigit c = false := by
    rintro c ⟨⟩
    rfl
  have hexponent := exponentPart?_written lead
  unfold exponentText
  dsimp only
  split
  next hshort =>
    have hparsed := @unsigned?_exponent negative _ _ hwhole _ hexponent
    simp only [List.append_nil, List.append_assoc, List.cons_append]
    refine ⟨_, ⟨hparsed, rfl, hwhole.digits, hlength⟩, ?_, ?_, rfl⟩
    · change ofDigits ((digits n).take 1 ++ []) = n
      rw [List.append_nil, List.take_of_length_le hshort, ofDigits_digits]
    · change 0 = (digits n).length - 1
      omega
  next hlong =>
    have hne : (digits n).drop 1 ≠ [] := by
      rw [Ne, List.drop_eq_nil_iff]
      exact hlong
    have hparsed := @unsigned?_fraction negative _ _ _ _ hwhole (all_isDigit_drop hall 1) hne
      hletter hexponent
    simp only [List.append_assoc, List.cons_append]
    refine ⟨_, ⟨hparsed, rfl, hwhole.digits, hlength⟩, ?_, ?_, rfl⟩
    · change ofDigits ((digits n).take 1 ++ (digits n).drop 1) = n
      rw [List.take_append_drop, ofDigits_digits]
    · exact List.length_drop

end Layouts

/-! ### Floating-point numbers -/

section Reals

variable {negative : Bool} {cs : List Char} {literal : Literal}

theorem isSome_number? (h : Spells negative cs literal)
    (hfinite : ∀ word left power : Nat, left ≤ (literal.fraction.getD []).length →
      word * 10 ^ left ≤ ofDigits (literal.whole ++ literal.fraction.getD []) → 0 < power →
      literal.exponent.getD 0 - (literal.fraction.getD []).length + left = power →
      StaysFinite (word * 10 ^ power)) :
    ((Literal.unsigned? negative cs).bind Literal.number?).isSome := by
  have hreal := Literal.isSome_real? h.digits h.length_le hfinite
  rw [h.parsed, Option.bind_some]
  unfold Literal.number?
  dsimp only
  rwa [if_pos h.isReal, Option.isSome_map]

/-- In positional layout there are no powers of ten to multiply with. -/
theorem isSome_number?_positional (negative : Bool) {n : Nat} {lead : Int} (hn : 0 < n ∨ lead = 0)
    (hlead : lead < 16) :
    ((Literal.unsigned? negative (positionalText true (digits n) lead)).bind
      Literal.number?).isSome := by
  obtain ⟨literal, hspells, hexponent⟩ := exists_spells_positional negative hn hlead
  refine isSome_number? hspells ?_
  intro word left power hleft _ hpos hpower
  rw [hexponent, Option.getD_none] at hpower
  omega

/-- Below the upper ends of all but the last two intervals there is room for the roundings. -/
theorem staysFinite_of_le {n : Nat} (h : n * Interval.perOne ≤ (2 ^ 55 - 10) * 2 ^ (2044 + 1)) :
    StaysFinite n := by
  have hgeneral (e : Nat) (he : n * (4 * Binary64.unitsPerOne) ≤ (2 ^ 55 - 10) * 2 ^ (e + 1)) :
      n * Binary64.unitsPerOne * (2 ^ 53 + 1) ^ 2 < (2 ^ 54 - 1) * 2 ^ e * 2 ^ 106 := by
    apply Nat.lt_of_mul_lt_mul_left (a := 4)
    calc 4 * (n * Binary64.unitsPerOne * (2 ^ 53 + 1) ^ 2)
        = n * (4 * Binary64.unitsPerOne) * (2 ^ 53 + 1) ^ 2 := by ring
      _ ≤ (2 ^ 55 - 10) * 2 ^ (e + 1) * (2 ^ 53 + 1) ^ 2 := Nat.mul_le_mul_right _ he
      _ = (2 ^ 55 - 10) * 2 * (2 ^ 53 + 1) ^ 2 * 2 ^ e := by ring
      _ < 4 * (2 ^ 54 - 1) * 2 ^ 106 * 2 ^ e :=
        Nat.mul_lt_mul_of_pos_right (by decide) (Nat.two_pow_pos e)
      _ = 4 * ((2 ^ 54 - 1) * 2 ^ e * 2 ^ 106) := by ring
  unfold Interval.perOne at h
  unfold StaysFinite Binary64.overflow
  exact hgeneral 2044 h

theorem isSome_number?_magnitude (negative : Bool) {index : Nat} (h : index < indexLimit) :
    ((Literal.unsigned? negative (numeralStyle.magnitude index)).bind
      Literal.number?).isSome := by
  by_cases hlast : index + 3 ≤ indexLimit
  · unfold FloatStyle.magnitude
    dsimp only
    split
    next hzero => exact @isSome_number?_positional negative 0 0 (.inr rfl) (by decide)
    next hne =>
      have hpos : 0 < index := Nat.pos_of_ne_zero hne
      rcases hnumeral : shortest numeralStyle.tie index with ⟨n, exponent⟩
      dsimp only
      rcases contains_shortest numeralStyle.tie index with hnone | hcontains
      · rw [hnumeral] at hnone
        cases hnone
        exact @isSome_number?_positional negative 0 0 (.inr rfl) (by decide)
      · rw [hnumeral] at hcontains
        dsimp only at hcontains
        have hn : 0 < n := Interval.pos_of_contains (low_intervalAt_pos hpos) hcontains
        split
        next hpositional =>
          refine isSome_number?_positional negative (.inl hn) ?_
          simp only [numeralStyle, Bool.and_eq_true, decide_eq_true_eq] at hpositional
          exact hpositional.2
        next =>
          obtain ⟨literal, hspells, hdigits, hlength, hlead⟩ :=
            exists_spells_exponent negative n (exponent + (digits n).length - 1)
          refine isSome_number? hspells ?_
          intro word left power _ hword _ hpower
          have hone : 0 < (digits n).length := List.length_pos_of_ne_nil (digits_ne_nil n)
          rw [hlead, Option.getD_some, hlength] at hpower
          rw [hdigits] at hword
          apply staysFinite_of_le
          exact (Interval.mul_perOne_le_high hcontains hword (by omega)).trans
            (high_intervalAt_le hlast)
  · -- the last two numbers are read back one by one
    have htop : index = indexLimit - 1 ∨ index = indexLimit - 2 := by omega
    rcases htop with rfl | rfl <;> cases negative <;> decide +kernel

end Reals

/-- Every number that a numeral can stand for is written as one that stands for a number. -/
theorem Number.isSome_reread? {n : Number} (h : n.IsSound) : n.reread?.isSome := by
  cases n with
  | integer n =>
    rw [(readsBack_integer h).reread?]
    rfl
  | real x =>
    cases x with
    | nan => cases h
    | infinite s => cases h
    | finite s i =>
      have hvalue := isSome_number?_magnitude s i.isLt
      unfold Number.reread?
      cases s with
      | true => exact hvalue
      | false =>
        have hwrite : (Number.real (.finite false i)).write = numeralStyle.magnitude i.val := rfl
        obtain ⟨n, hn⟩ := Option.isSome_iff_exists.1 hvalue
        obtain ⟨literal, hparsed, -⟩ := Option.bind_eq_some_iff.1 hn
        obtain ⟨-, c, cs, hcs, hdigit⟩ := chars_of_unsigned? hparsed
        have hsign : (numeralStyle.magnitude i.val).head? ≠ some '-' := by
          rw [hcs]
          intro hhead
          cases hhead
          cases hdigit
        rw [hwrite, parse?_of_head? hsign]
        exact hvalue

end ShopSync.Json
