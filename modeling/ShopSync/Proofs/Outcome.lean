/-!
Outcomes that may be failures.

What goes on after something that may fail comes to a result only from a result, and fails with the
failure before it or with one of its own.  `IfOk` says something of the result, where there is one.
-/

namespace ShopSync

section Except

variable {ε α β : Type} {x : Except ε α} {g : α → Except ε β} {e : ε} {b : β}

theorem bind_eq_error_iff :
    x >>= g = .error e ↔ x = .error e ∨ ∃ a, x = .ok a ∧ g a = .error e := by
  cases x with
  | error e' => simp [bind, Except.bind]
  | ok a => simp [bind, Except.bind]

theorem bind_eq_ok_iff : x >>= g = .ok b ↔ ∃ a, x = .ok a ∧ g a = .ok b := by
  cases x with
  | error e' => simp [bind, Except.bind]
  | ok a => simp [bind, Except.bind]

theorem map_eq_error_iff {f : α → β} : x.map f = .error e ↔ x = .error e := by
  cases x <;> simp [Except.map]

theorem map_eq_ok_iff {f : α → β} : x.map f = .ok b ↔ ∃ a, x = .ok a ∧ f a = b := by
  cases x <;> simp [Except.map]

theorem mapError_eq_ok_iff {ε' : Type} {f : ε → ε'} {a : α} :
    x.mapError f = .ok a ↔ x = .ok a := by
  cases x with
  | error e' => exact iff_of_false nofun nofun
  | ok a' =>
    constructor
    · rintro ⟨⟩
      rfl
    · rintro ⟨⟩
      rfl

end Except

/-- The result, where there is one, has the property. -/
def IfOk {ε β : Type} (p : β → Prop) (outcome : Except ε β) : Prop := ∀ b, outcome = .ok b → p b

section IfOk

variable {ε ε' β : Type} {p : β → Prop} {b : β} {e : ε}

theorem ifOk_ok (h : p b) : IfOk p (.ok b : Except ε β) := by
  rintro _ ⟨⟩
  exact h

theorem ifOk_error : IfOk p (.error e : Except ε β) := nofun

theorem IfOk.mapError {outcome : Except ε β} (h : IfOk p outcome) (f : ε → ε') :
    IfOk p (outcome.mapError f) := by
  cases outcome with
  | ok b => exact ifOk_ok (h b rfl)
  | error e => exact ifOk_error

end IfOk

end ShopSync
