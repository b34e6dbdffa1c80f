import ShopSync.Proofs.Number.Digits

/-!
Which texts are whole numbers.

A text spells a whole number when it is a run of ASCII digits, at least one, with at most one sign
in front; leading zeros do not matter.  `integer?` reads exactly these texts, and `int64?` those of
them whose number has 64 bits.
-/

namespace ShopSync.Number

/-- At least one character, and all of them ASCII digits. -/
def AreDigits (cs : List Char) : Prop := cs ≠ [] ∧ ∀ c ∈ cs, isDigit c = true

/-- The characters spell a whole number: digits with an optional sign. -/
inductive SpellsInteger : List Char → Int → Prop
  | bare {cs : List Char} (hdigits : AreDigits cs) : SpellsInteger cs (ofDigits cs)
  | plus {cs : List Char} (hdigits : AreDigits cs) : SpellsInteger ('+' :: cs) (ofDigits cs)
  | minus {cs : List Char} (hdigits : AreDigits cs) :
      SpellsInteger ('-' :: cs) (-(ofDigits cs : Int))

section Grammar

variable {cs : List Char} {n : Int}

theorem natural?_eq_some_iff {m : Nat} : natural? cs = some m ↔ AreDigits cs ∧ ofDigits cs = m := by
  unfold natural? AreDigits
  rw [Option.ite_none_right_eq_some, Bool.and_eq_true, Bool.not_eq_true', List.isEmpty_eq_false_iff,
    List.all_eq_true, Option.some.injEq]

theorem natural?_of_areDigits (h : AreDigits cs) : natural? cs = some (ofDigits cs) :=
  natural?_eq_some_iff.2 ⟨h, rfl⟩

/-- Digits alone start with no sign, so the reader takes them as they are. -/
theorem integer?_of_areDigits (h : AreDigits cs) : integer? cs = some (ofDigits cs : Int) := by
  have hnat := natural?_of_areDigits h
  unfold integer?
  split
  · exact absurd rfl (ne_sign_of_isDigit (h.2 '-' List.mem_cons_self)).1
  · exact absurd rfl (ne_sign_of_isDigit (h.2 '+' List.mem_cons_self)).2
  · rw [hnat]
    rfl

theorem integer?_eq_some_iff : integer? cs = some n ↔ SpellsInteger cs n := by
  constructor
  · intro h
    unfold integer? at h
    split at h
    all_goals
      obtain ⟨m, hm, rfl⟩ := Option.map_eq_some_iff.1 h
      obtain ⟨size, hsize, hcast⟩ := Option.bind_eq_some_iff.1 hm
      obtain rfl := Option.some.inj hcast
      obtain ⟨hdigits, rfl⟩ := natural?_eq_some_iff.1 hsize
    · exact .minus hdigits
    · exact .plus hdigits
    · exact .bare hdigits
  · rintro (hdigits | hdigits | hdigits)
    · exact integer?_of_areDigits hdigits
    · rw [integer?, natural?_of_areDigits hdigits]
      rfl
    · rw [integer?, natural?_of_areDigits hdigits]
      rfl

theorem int64?_eq_some_iff {s : String} :
    int64? s = some n ↔ SpellsInteger s.toList n ∧ -int64Limit ≤ n ∧ n < int64Limit := by
  rw [int64?, Option.bind_eq_bind, Option.bind_eq_some_iff, ← integer?_eq_some_iff]
  constructor
  · rintro ⟨m, hm, hfound⟩
    obtain ⟨hrange, hmn⟩ := Option.ite_none_right_eq_some.1 hfound
    obtain rfl := Option.some.inj hmn
    exact ⟨hm, hrange⟩
  · rintro ⟨hn, hrange⟩
    exact ⟨n, hn, Option.ite_none_right_eq_some.2 ⟨hrange, rfl⟩⟩

end Grammar

/-- Leading zeros and a plus sign are read over, and nothing may stand beside the digits. -/
example : int64? "+007" = some 7 ∧ int64? "7 " = none ∧ int64? "-" = none := by decide +kernel

end ShopSync.Number
