import Mathlib.Data.List.TakeWhile
import Mathlib.Tactic
import ShopSync.Json.Token
import ShopSync.Proofs.Number.Digits

/-!
Numerals read back.

`Number.ReadsBack` says that the numeral a number is written as stands for that number again.  It
holds of every whole number of 64 bits, signed or not.  A floating-point numeral is read in two
rounding steps, which may end one place beside the number, so there it is a condition.
-/

namespace ShopSync.Json

open ShopSync.Number

/-- The numeral of the number stands for the number. -/
def Number.ReadsBack (n : Number) : Prop :=
  ∃ literal, Literal.parse? n.write = some literal ∧ literal.number? = some n

theorem Number.readsBack_iff (n : Number) :
    n.ReadsBack ↔ (Literal.parse? n.write).bind Literal.number? = some n :=
  Option.bind_eq_some_iff.symm

instance (n : Number) : Decidable n.ReadsBack := decidable_of_iff' _ n.readsBack_iff

/-- The number is written as a numeral. -/
def Number.HasNumeral (n : Number) : Prop := (Literal.parse? n.write).isSome

/-- The number that the numeral of a number stands for, if it stands for one. -/
def Number.reread? (n : Number) : Option Number := (Literal.parse? n.write).bind Literal.number?

theorem Number.hasNumeral_of_reread? {n m : Number} (h : n.reread? = some m) : n.HasNumeral := by
  obtain ⟨literal, hparse, -⟩ := Option.bind_eq_some_iff.1 h
  exact Option.isSome_iff_exists.2 ⟨literal, hparse⟩

theorem Number.ReadsBack.reread? {n : Number} (h : n.ReadsBack) : n.reread? = some n :=
  n.readsBack_iff.1 h

/-! ### The characters of numerals -/

theorem span_append {p : Char → Bool} {cs rest : List Char} (hcs : cs.all p = true)
    (hrest : ∀ c, rest.head? = some c → p c = false) :
    (cs ++ rest).takeWhile p = cs ∧ (cs ++ rest).dropWhile p = rest := by
  have hall := List.all_eq_true.1 hcs
  rw [List.takeWhile_append_of_pos hall, List.dropWhile_append_of_pos hall]
  cases rest with
  | nil => simp
  | cons c rest =>
    have hc : p c = false := hrest c rfl
    simp [hc]

theorem isNumeralChar_of_isDigit {c : Char} (h : isDigit c = true) : isNumeralChar c = true := by
  simp [isNumeralChar, h]

theorem leadingDigits?_eq_some {cs ds rest : List Char} (h : leadingDigits? cs = some (ds, rest)) :
    cs = ds ++ rest ∧ ds ≠ [] ∧ ds.all isDigit = true := by
  simp only [leadingDigits?] at h
  split at h
  · cases h
  next hne =>
    obtain ⟨rfl, rfl⟩ := Prod.mk.inj (Option.some.inj h)
    refine ⟨List.takeWhile_append_dropWhile.symm, ?_, List.all_takeWhile⟩
    simpa using hne

theorem leadingDigits?_of_all {ds : List Char} (hne : ds ≠ []) (h : ds.all isDigit = true) :
    leadingDigits? ds = some (ds, []) := by
  have ht : ds.takeWhile isDigit = ds := List.takeWhile_eq_self_iff.2 (List.all_eq_true.1 h)
  have hd : ds.dropWhile isDigit = [] := List.dropWhile_eq_nil_iff.2 (List.all_eq_true.1 h)
  have hempty : ds.isEmpty = false := by simpa using hne
  simp only [leadingDigits?, ht, hd, hempty, Bool.false_eq_true, if_false]

theorem all_isNumeralChar_of_all_isDigit {cs : List Char} (h : cs.all isDigit = true) :
    cs.all isNumeralChar = true :=
  List.all_eq_true.2 fun c hc => isNumeralChar_of_isDigit (List.all_eq_true.1 h c hc)

theorem all_isNumeralChar_of_natural? {cs : List Char} {n : Nat} (h : natural? cs = some n) :
    cs.all isNumeralChar = true := by
  simp only [natural?] at h
  split at h
  next hcs =>
    rw [Bool.and_eq_true] at hcs
    exact all_isNumeralChar_of_all_isDigit hcs.2
  · cases h

theorem all_isNumeralChar_of_integer? {cs : List Char} {n : Int} (h : integer? cs = some n) :
    cs.all isNumeralChar = true := by
  unfold integer? at h
  split at h
  all_goals
    obtain ⟨m, hm, -⟩ := Option.map_eq_some_iff.1 h
    obtain ⟨k, hk, -⟩ := Option.bind_eq_some_iff.1 hm
    have := all_isNumeralChar_of_natural? hk
  · rw [List.all_cons, this]
    rfl
  · rw [List.all_cons, this]
    rfl
  · exact this

theorem all_isNumeralChar_of_exponentPart? {cs : List Char} {e : Option Int}
    (h : exponentPart? cs = some e) : cs.all isNumeralChar = true := by
  unfold exponentPart? at h
  split at h
  · rfl
  next c rest =>
    split at h
    next hc =>
      obtain ⟨m, hm, -⟩ := Option.map_eq_some_iff.1 h
      rw [List.all_cons, all_isNumeralChar_of_integer? hm]
      rcases hc with rfl | rfl <;> rfl
    · cases h

theorem all_isNumeralChar_unsigned {cs : List Char} {whole rest : List Char}
    (hwhole : leadingDigits? cs = some (whole, rest)) (hrest : rest.all isNumeralChar = true) :
    cs.all isNumeralChar = true ∧ ∃ c cs', cs = c :: cs' ∧ isDigit c = true := by
  obtain ⟨rfl, hne, hall⟩ := leadingDigits?_eq_some hwhole
  constructor
  · rw [List.all_append, all_isNumeralChar_of_all_isDigit hall, hrest]
    rfl
  · obtain ⟨c, cs, rfl⟩ := List.exists_cons_of_ne_nil hne
    rw [List.all_cons, Bool.and_eq_true] at hall
    exact ⟨c, cs ++ rest, rfl, hall.1⟩

/-- What stands after the whole part of a numeral: a fraction and an exponent, or only the latter,
or nothing. -/
theorem all_isNumeralChar_rest {rest fraction rest' : List Char} {e : Option Int}
    (hfraction : leadingDigits? rest = some (fraction, rest'))
    (hexponent : exponentPart? rest' = some e) : ('.' :: rest).all isNumeralChar = true := by
  obtain ⟨rfl, -, hall⟩ := leadingDigits?_eq_some hfraction
  rw [List.all_cons, List.all_append, all_isNumeralChar_of_all_isDigit hall,
    all_isNumeralChar_of_exponentPart? hexponent]
  rfl

/-- A numeral starts with a digit or a minus sign. -/
def startsNumeral (c : Char) : Bool := isDigit c || c == '-'

/-- The parts of a numeral without its sign. -/
def Literal.unsigned? (negative : Bool) (cs : List Char) : Option Literal := do
  let (whole, rest) ← leadingDigits? cs
  if whole.head? = some '0' ∧ whole.length ≠ 1 then none
  else match rest with
    | '.' :: rest => do
      let (fraction, rest) ← leadingDigits? rest
      let exponent ← exponentPart? rest
      pure { negative, whole, fraction := some fraction, exponent }
    | rest => do
      let exponent ← exponentPart? rest
      pure { negative, whole, fraction := none, exponent }

theorem parse?_minus (cs : List Char) :
    Literal.parse? ('-' :: cs) = Literal.unsigned? true cs := rfl

theorem parse?_of_head? {cs : List Char} (h : cs.head? ≠ some '-') :
    Literal.parse? cs = Literal.unsigned? false cs := by
  unfold Literal.parse?
  split
  next hsign =>
    split at hsign
    · exact absurd rfl h
    · obtain ⟨rfl, rfl⟩ := Prod.mk.inj hsign
      rfl

theorem chars_of_unsigned? {negative : Bool} {cs : List Char} {literal : Literal}
    (h : Literal.unsigned? negative cs = some literal) :
    cs.all isNumeralChar = true ∧ ∃ c cs', cs = c :: cs' ∧ isDigit c = true := by
  obtain ⟨⟨whole, rest⟩, hwhole, h⟩ := Option.bind_eq_some_iff.1 h
  refine all_isNumeralChar_unsigned hwhole ?_
  dsimp only at h
  split at h
  · cases h
  · split at h
    · obtain ⟨⟨fraction, rest'⟩, hfraction, h⟩ := Option.bind_eq_some_iff.1 h
      obtain ⟨e, hexponent, -⟩ := Option.bind_eq_some_iff.1 h
      exact all_isNumeralChar_rest hfraction hexponent
    · obtain ⟨e, hexponent, -⟩ := Option.bind_eq_some_iff.1 h
      exact all_isNumeralChar_of_exponentPart? hexponent

/-- What can be read as a numeral is a run of numeral characters with a start of its own. -/
theorem chars_of_parse? {cs : List Char} {literal : Literal}
    (h : Literal.parse? cs = some literal) :
    cs.all isNumeralChar = true ∧ ∃ c cs', cs = c :: cs' ∧ startsNumeral c = true := by
  by_cases hsign : cs.head? = some '-'
  · obtain ⟨body, rfl⟩ := List.head?_eq_some_iff.1 hsign
    rw [parse?_minus] at h
    refine ⟨?_, '-', body, rfl, rfl⟩
    rw [List.all_cons, (chars_of_unsigned? h).1]
    rfl
  · rw [parse?_of_head? hsign] at h
    obtain ⟨hall, c, cs', rfl, hc⟩ := chars_of_unsigned? h
    exact ⟨hall, c, cs', rfl, by simp [startsNumeral, hc]⟩

/-! ### Whole numbers -/

theorem unsigned?_digits (negative : Bool) (n : Nat) :
    Literal.unsigned? negative (digits n) =
      some { negative, whole := digits n, fraction := none, exponent := none } := by
  have hlead := leadingDigits?_of_all (digits_ne_nil n) (all_isDigit_digits n)
  have hzero : ¬((digits n).head? = some '0' ∧ (digits n).length ≠ 1) :=
    fun h => h.2 (length_digits_eq_one h.1)
  simp only [Literal.unsigned?, hlead, Option.bind_eq_bind, Option.bind_some, hzero, if_false,
    exponentPart?]
  rfl

theorem head?_digits_ne_minus (n : Nat) : (digits n).head? ≠ some '-' := by
  intro h
  obtain ⟨cs, hcs⟩ := List.head?_eq_some_iff.1 h
  have hmem : '-' ∈ digits n := by rw [hcs]; exact List.mem_cons_self
  exact absurd rfl (ne_sign_of_isDigit (isDigit_of_mem_digits hmem)).1

/-- The whole numbers of 64 bits, signed or not. -/
def IsWord (n : Int) : Prop := -int64Limit ≤ n ∧ n < UInt64.size

theorem Number.readsBack_integer {n : Int} (h : IsWord n) : (Number.integer n).ReadsBack := by
  obtain ⟨hlow, hhigh⟩ := h
  cases n with
  | ofNat n =>
    refine ⟨_, (parse?_of_head? (head?_digits_ne_minus n)).trans (unsigned?_digits false n), ?_⟩
    have hn : n < UInt64.size := by simpa using hhigh
    simp [Literal.number?, ofDigits_digits, hn]
  | negSucc n =>
    refine ⟨_, (parse?_minus _).trans (unsigned?_digits true (n + 1)), ?_⟩
    have hn : ((n + 1 : Nat) : Int) ≤ int64Limit := by
      rw [Int.negSucc_eq] at hlow
      push_cast
      omega
    simp only [Literal.number?, ofDigits_digits, Option.isSome_none, Bool.or_self,
      Bool.not_true, Bool.false_and, Bool.false_eq_true, if_false, hn,
      decide_true, Bool.and_true, Nat.succ_pos, if_true]
    rw [Int.negSucc_eq]
    push_cast
    rfl

/-- Whole numbers of any size have numerals. -/
theorem Number.hasNumeral_integer (n : Int) : (Number.integer n).HasNumeral := by
  cases n with
  | ofNat n =>
    have hparse := (parse?_of_head? (head?_digits_ne_minus n)).trans (unsigned?_digits false n)
    exact Option.isSome_iff_exists.2 ⟨_, hparse⟩
  | negSucc n =>
    have hparse := (parse?_minus _).trans (unsigned?_digits true (n + 1))
    exact Option.isSome_iff_exists.2 ⟨_, hparse⟩

theorem Number.readsBack_ofNat {n : Nat} (h : n < UInt64.size) : (Number.integer n).ReadsBack :=
  readsBack_integer ⟨by simp only [int64Limit]; omega, by exact_mod_cast h⟩

end ShopSync.Json
