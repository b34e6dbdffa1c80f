import ShopSync.Calendar
import ShopSync.Number.Digits
import ShopSync.Validation
import ShopSync.Json.Decoder

/-!
Points in time, in universal time with a resolution of a nanosecond.

A timestamp is a number of whole seconds since 1970 and the nanoseconds into that second; it lies
in the years -9999 to 9999.  In the years 0 to 9999 it is written in the form of RFC 3339 with the
zone `Z`; outside them that form has no room for the year, and the seconds are written instead.
-/

namespace ShopSync

open Number (isDigit digitValue ofDigits paddedDigits integerText)
open Calendar (Date)

namespace Timestamp

/-- The first second of the year -9999. -/
def firstSecond : Int := -377705116800

/-- The last second of the year 9999. -/
def lastSecond : Int := 253402300799

/-- Nanoseconds in a second. -/
def nanosPerSecond : Nat := 1000000000

/-- Seconds in a day. -/
def secondsPerDay : Nat := 86400

end Timestamp

/-- A point in time. -/
structure Timestamp where
  seconds : Int
  nanos : Nat
  first_le : Timestamp.firstSecond ≤ seconds
  le_last : seconds ≤ Timestamp.lastSecond
  nanos_lt : nanos < Timestamp.nanosPerSecond
deriving DecidableEq

namespace Timestamp

/-- The start of 1970. -/
def epoch : Timestamp where
  seconds := 0
  nanos := 0
  first_le := by decide
  le_last := by decide
  nanos_lt := by decide

/-- The last nanosecond of the year 9999. -/
def last : Timestamp where
  seconds := lastSecond
  nanos := 999999999
  first_le := by decide
  le_last := by decide
  nanos_lt := by decide

/-- The start of a second since 1970. -/
def ofUnixSeconds (seconds : Int) : Except ValidationError Timestamp :=
  if h : firstSecond ≤ seconds ∧ seconds ≤ lastSecond then
    .ok { seconds, nanos := 0, first_le := h.1, le_last := h.2, nanos_lt := by decide }
  else .error (.timestampOutOfRange seconds)

/-- The timestamp some nanoseconds after the start of 1970, but not past the last one. -/
def ofUnixNanos (nanos : Nat) : Timestamp :=
  if h : ((nanos / nanosPerSecond : Nat) : Int) ≤ lastSecond then
    { seconds := (nanos / nanosPerSecond : Nat)
      nanos := nanos % nanosPerSecond
      first_le := Int.le_trans (by decide) (Int.natCast_nonneg _)
      le_last := h
      nanos_lt := Nat.mod_lt _ (by decide) }
  else last

/-- Whole seconds since 1970, rounded towards the past. -/
def unixSeconds (t : Timestamp) : Int := t.seconds

/-- The order in time. -/
def compare (a b : Timestamp) : Ordering :=
  (Ord.compare a.seconds b.seconds).then (Ord.compare a.nanos b.nanos)

/-- Moves a timestamp into the past by a number of days, but not past the start of 1970; a negative
number of days moves it into the future, but not past the last timestamp. -/
def subDays (t : Timestamp) (days : Int) : Timestamp :=
  let moved := t.seconds - days * secondsPerDay
  if h : 0 ≤ moved then
    if h' : moved ≤ lastSecond then
      { t with
        seconds := moved
        first_le := by simp only [firstSecond]; omega
        le_last := h' }
    else last
  else epoch

/-! ### Writing -/

/-- The digits of a fraction of a second, without trailing zeros. -/
def fractionDigits (nanos : Nat) : List Char :=
  ((paddedDigits 9 nanos).reverse.dropWhile (· == '0')).reverse

/-- The date and the second of the day. -/
def civil (t : Timestamp) : Date × Nat :=
  (Calendar.dateOf (t.seconds / secondsPerDay), (t.seconds % secondsPerDay).toNat)

/-- The form of RFC 3339, for a year of four digits. -/
def rfc3339 (date : Date) (second nanos : Nat) : List Char :=
  paddedDigits 4 date.year.toNat ++ '-' :: paddedDigits 2 date.month ++ '-' ::
    paddedDigits 2 date.day ++ 'T' :: paddedDigits 2 (second / 3600) ++ ':' ::
    paddedDigits 2 (second / 60 % 60) ++ ':' :: paddedDigits 2 (second % 60) ++
    (if nanos = 0 then [] else '.' :: fractionDigits nanos) ++ ['Z']

/-- The timestamp as a text. -/
def text (t : Timestamp) : String :=
  let (date, second) := t.civil
  if 0 ≤ date.year ∧ date.year ≤ 9999 then String.ofList (rfc3339 date second t.nanos)
  else String.ofList (integerText t.seconds)

/-! ### Reading -/

/-- The number that characters spell, all of which have to be digits. -/
def digitsOnly? (cs : List Char) : Option Nat :=
  if cs.all isDigit then some (ofDigits cs) else none

/-- Whether the characters name the zone of universal time. -/
def isUtcZone (cs : List Char) : Bool :=
  cs == ['Z'] || cs == ['z'] || cs == ['+', '0', '0', ':', '0', '0'] ||
    cs == ['-', '0', '0', ':', '0', '0']

/-- The nanoseconds of a fraction and what follows it; digits past the ninth do not count. -/
def fraction? : List Char → Option (Nat × List Char)
  | '.' :: cs =>
    let ds := cs.takeWhile isDigit
    if ds.isEmpty then none
    else
      let nine := (ds ++ List.replicate 9 '0').take 9
      some (ofDigits nine, cs.dropWhile isDigit)
  | cs => some (0, cs)

/-- The timestamp of a date and a time of day.  The sixtieth second exists only at the end of the
last day of a month, and counts as the last nanosecond before it. -/
def ofCivil? (date : Date) (hour minute second nanos : Nat) : Option Timestamp :=
  if !date.isValid || decide (23 < hour) || decide (59 < minute) then none
  else
    let start := Calendar.dayNumber date * secondsPerDay + (hour * 3600 + minute * 60 : Nat)
    let (second, nanos, exists?) :=
      if second = 60 then
        (59, 999999999, decide (hour = 23) && decide (minute = 59) &&
          decide (date.day = Calendar.daysInMonth (Calendar.isLeap date.year) date.month))
      else (second, nanos, decide (second < 60))
    let seconds := start + (second : Nat)
    if h : exists? = true ∧ firstSecond ≤ seconds ∧ seconds ≤ lastSecond ∧ nanos < nanosPerSecond then
      some { seconds, nanos, first_le := h.2.1, le_last := h.2.2.1, nanos_lt := h.2.2.2 }
    else none

/-- The timestamp that the characters spell.  Date and time may be separated by any one ASCII
character. -/
def ofChars? : List Char → Option Timestamp
  | y1 :: y2 :: y3 :: y4 :: '-' :: m1 :: m2 :: '-' :: d1 :: d2 :: sep :: h1 :: h2 :: ':' ::
      n1 :: n2 :: ':' :: s1 :: s2 :: rest => do
    let year ← digitsOnly? [y1, y2, y3, y4]
    let month ← digitsOnly? [m1, m2]
    let day ← digitsOnly? [d1, d2]
    let hour ← digitsOnly? [h1, h2]
    let minute ← digitsOnly? [n1, n2]
    let second ← digitsOnly? [s1, s2]
    let (nanos, zone) ← fraction? rest
    if decide (sep.toNat < 0x80) && isUtcZone zone then
      ofCivil? { year, month, day } hour minute second nanos
    else none
  | _ => none

/-- Reads a timestamp from a text. -/
def parse (input : String) : Except ValidationError Timestamp :=
  match ofChars? input.toList with
  | some t => .ok t
  | none => .error (.timestampNotUtc input)

/-- The timestamp as JSON: its text. -/
def toJson (t : Timestamp) : Json.Value := .string t.text

/-- Reads a timestamp from JSON. -/
def decoder : Json.Decoder Timestamp := Json.Decoder.parsed parse

end Timestamp

end ShopSync
