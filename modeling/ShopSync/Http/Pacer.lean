/-!
Client-side pacing of requests.

A pacer has a budget of requests per second, and as many may go out at once.  It keeps the time at
which the budget will be whole again; a request may go out as long as that time is less than a
full budget away, and each one moves it by one share.
-/

namespace ShopSync.Http

/-- A budget of requests per second, which is not zero. -/
structure Pacer where
  perSecond : UInt32
  positive : perSecond ≠ 0
deriving DecidableEq

namespace Pacer

/-- The pacer for a budget; a budget of zero means no pacing. -/
def ofBudget? (perSecond : UInt32) : Option Pacer :=
  if h : perSecond = 0 then none else some { perSecond, positive := h }

/-- The share of a second that one request takes, in nanoseconds. -/
def share (pacer : Pacer) : Nat := 1000000000 / pacer.perSecond.toNat

/-- When the budget will be whole again, in nanoseconds; nothing before the first request. -/
abbrev State := Option Nat

/-- Takes one request of the budget at a time in nanoseconds, if there is one. -/
def take? (pacer : Pacer) (now : Nat) (state : State) : Option State :=
  let whole := state.getD (now + pacer.share)
  if now + pacer.share * pacer.perSecond.toNat < whole then none
  else some (some (max whole now + pacer.share))

/-- How long it takes until a request may go out, in nanoseconds. -/
def delay (pacer : Pacer) (now : Nat) (state : State) : Nat :=
  state.getD (now + pacer.share) - (now + pacer.share * pacer.perSecond.toNat)

/-- After the delay a request may go out. -/
theorem isSome_take?_delay (pacer : Pacer) (now : Nat) (state : State) :
    (pacer.take? (now + pacer.delay now state) state).isSome := by
  have hpos : 0 < pacer.perSecond.toNat := by
    have h := pacer.positive
    rw [Ne, ← UInt32.toNat_inj] at h
    simpa using Nat.pos_of_ne_zero h
  have hshare : pacer.share ≤ pacer.share * pacer.perSecond.toNat :=
    Nat.le_mul_of_pos_right _ hpos
  cases state with
  | none =>
    rw [take?, if_neg (by simp only [Option.getD_none]; omega)]
    rfl
  | some whole =>
    rw [take?, if_neg (by simp only [delay, Option.getD_some]; omega)]
    rfl

/-- Whether each of several attempts at the same time goes through. -/
def attempts (pacer : Pacer) (now : Nat) (state : State) : (count : Nat) → List Bool
  | 0 => []
  | count + 1 =>
    match pacer.take? now state with
    | some state => true :: pacer.attempts now state count
    | none => false :: pacer.attempts now state count

/-- The pacer in words, for diagnostics. -/
def describe (pacer : Pacer) : String :=
  "RequestPacer \x7b requests_per_second: " ++ toString pacer.perSecond.toNat ++ " \x7d"

end Pacer

end ShopSync.Http
