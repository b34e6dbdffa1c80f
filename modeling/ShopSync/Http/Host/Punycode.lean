import ShopSync.Number.Digits

/-!
Labels of characters outside ASCII, written in ASCII.

The ASCII characters stand first, with a hyphen after them when there are any.  The others follow
in the order of their numbers, each as the count of places passed since the one before: a place is
a number together with a position in the label.  Counts are written with 36 digits, the lowest
first; each digit has a threshold, and a digit below its threshold is the last one.  Thresholds
depend on a bias that follows the size of the counts.
-/

namespace ShopSync.Http.Host.Punycode

/-- The number of digits. -/
def radix : Nat := 36

/-- The first number outside ASCII. -/
def firstNumber : Nat := 0x80

/-- The bias at the start. -/
def firstBias : Nat := 72

/-- The threshold of the digit in a place. -/
def threshold (bias place : Nat) : Nat :=
  min 26 (max 1 (radix * (place + 1) - bias))

theorem threshold_pos (bias place : Nat) : 0 < threshold bias place := by
  unfold threshold; omega

/-- The bias for counts about as large as one. -/
def biasFor (count : Nat) : Nat :=
  if 455 < count then radix + biasFor (count / 35) else radix * count / (count + 38)
termination_by count
decreasing_by omega

/-- The bias after a count, when the label has so many characters. -/
def nextBias (count length : Nat) (isFirst : Bool) : Nat :=
  let scaled := if isFirst then count / 700 else count / 2
  biasFor (scaled + scaled / length)

/-! ### Digits -/

/-- The value of a digit. -/
def digitValue? (c : Char) : Option Nat :=
  let n := c.toNat
  if 'a' ≤ c ∧ c ≤ 'z' then some (n - 'a'.toNat)
  else if '0' ≤ c ∧ c ≤ '9' then some (26 + (n - '0'.toNat))
  else none

/-- The digit of a value. -/
def digit (value : Nat) : Char :=
  Char.ofNat (if value < 26 then 'a'.toNat + value else '0'.toNat + (value - 26))

/-- Reads a count from a place on, of digits that count `weight`; with it comes the rest. -/
def count? (bias : Nat) : (place weight : Nat) → List Char → Option (Nat × List Char)
  | _, _, [] => none
  | place, weight, c :: rest => do
    let value ← digitValue? c
    let t := threshold bias place
    if value < t then pure (value * weight, rest)
    else
      let (more, rest) ← count? bias (place + 1) (weight * (radix - t)) rest
      pure (value * weight + more, rest)

theorem length_count? {bias place weight n : Nat} {cs rest : List Char}
    (h : count? bias place weight cs = some (n, rest)) : rest.length < cs.length := by
  induction cs generalizing place weight n rest with
  | nil => simp [count?] at h
  | cons c cs ih =>
    cases hv : digitValue? c with
    | none => simp [count?, hv] at h
    | some value =>
      by_cases ht : value < threshold bias place
      · simp [count?, hv, ht] at h
        simp [h.2]
      · cases hm : count? bias (place + 1) (weight * (radix - threshold bias place)) cs with
        | none => simp [count?, hv, ht, hm] at h
        | some found =>
          obtain ⟨more, left⟩ := found
          simp [count?, hv, ht, hm] at h
          have := ih hm
          simp only [← h.2, List.length_cons]
          omega

/-- The digits of a count from a place on. -/
def digits (bias place count : Nat) : List Char :=
  let t := threshold bias place
  if count < t then [digit count]
  else
    digit (t + (count - t) % (radix - t)) :: digits bias (place + 1) ((count - t) / (radix - t))
termination_by count
decreasing_by
  have := threshold_pos bias place
  exact Nat.lt_of_le_of_lt (Nat.div_le_self _ _) (by omega)

/-! ### Reading -/

/-- The label so far with the characters that the rest says; `place` is the number and the
position where the next character may stand. -/
def readFrom (bias number position : Nat) (isFirst : Bool) (label rest : List Char) :
    Option (List Char) :=
  match rest with
  | [] => some label
  | c :: cs =>
    match h : count? bias 0 1 (c :: cs) with
    | none => none
    | some (count, left) =>
      let length := label.length + 1
      let number := number + (position + count) / length
      let position := (position + count) % length
      if number.isValidChar then
        readFrom (nextBias count length isFirst) number (position + 1) false
          (label.insertIdx position (Char.ofNat number)) left
      else none
termination_by rest.length
decreasing_by exact length_count? h

/-- The label that is written as the characters.  A hyphen with nothing before it is none. -/
def read? (cs : List Char) : Option (List Char) :=
  let tail := (cs.reverse.takeWhile (· ≠ '-')).reverse
  let plain := cs.take (cs.length - tail.length - 1)
  if plain.all (·.toNat < firstNumber) then
    readFrom firstBias firstNumber 0 true plain (if plain.isEmpty then cs else tail)
  else none

/-! ### Writing -/

/-- What has been written of a label, and what the next count depends on. -/
structure State where
  written : List Char
  bias : Nat
  /-- The places passed since the last character. -/
  count : Nat := 0
  /-- The characters that have been written. -/
  length : Nat
  isFirst : Bool := true

/-- Passes a character of the label when those with one number are written. -/
def State.pass (number : Nat) (state : State) (c : Char) : State :=
  if c.toNat < number then { state with count := state.count + 1 }
  else if c.toNat = number then
    { written := state.written ++ digits state.bias 0 state.count
      bias := nextBias state.count (state.length + 1) state.isFirst
      length := state.length + 1
      isFirst := false }
  else state

/-- Writes the characters of a label with the numbers in turn; none below `passed` is left. -/
def writeFrom (label : List Char) (passed : Nat) (state : State) : List Nat → List Char
  | [] => state.written
  | number :: numbers =>
    let count := state.count + (number - passed) * (state.length + 1)
    let state := label.foldl (State.pass number) { state with count }
    writeFrom label (number + 1) { state with count := state.count + 1 } numbers

/-- A label in ASCII. -/
def write (label : List Char) : List Char :=
  let plain := label.filter (·.toNat < firstNumber)
  let numbers := (label.map Char.toNat).filter (firstNumber ≤ ·)
  let hyphen := if plain.isEmpty then [] else ['-']
  plain ++ hyphen ++ writeFrom label firstNumber
    { written := [], bias := firstBias, length := plain.length } (numbers.mergeSort.eraseDups)

end ShopSync.Http.Host.Punycode
