import ShopSync.Number.Digits
import ShopSync.Text.Percent
import ShopSync.Text.Truncate

/-!
Hosts that are numbers.

An address of version four of the internet protocol is up to four numbers with points in between:
the first ones are bytes, and the last one fills the bytes that are left.  A number is hexadecimal
after `0x`, octal after `0`, and decimal otherwise.  An address of version six is eight groups of
hexadecimal digits with colons in between; two colons in a row stand for groups of zeros, and an
address of version four in plain notation for the last two groups.
-/

namespace ShopSync.Http.Host

open Number (isDigit ofDigits)

/-! ### Version four -/

/-- A number in hexadecimal after `0x`, in octal after `0`, or in decimal. -/
def looseNumber? (cs : List Char) : Option Nat :=
  let spell (base : Nat) (ds : List Char) : Option Nat :=
    ds.foldlM (fun n d => do
      let v ← Text.Percent.hexValue? d
      if v < base then pure (base * n + v) else none) 0
  match cs with
  | [] => none
  | '0' :: 'x' :: ds => spell 16 ds
  | '0' :: 'X' :: ds => spell 16 ds
  | '0' :: d :: ds => spell 8 (d :: ds)
  | ds => spell 10 ds

/-- The labels of a host; a point at the end adds none. -/
def labels (host : List Char) : List (List Char) :=
  let parts := Text.splitOn '.' host
  if parts.getLast? = some [] && decide (1 < parts.length) then parts.dropLast else parts

/-- Whether the last label makes the host a number. -/
def endsInNumber (host : List Char) : Bool :=
  match (labels host).getLast? with
  | some label => !label.isEmpty && (label.all isDigit || (looseNumber? label).isSome)
  | none => false

/-- The address of version four that a host is, as one number. -/
def versionFour? (host : List Char) : Option Nat := do
  let numbers ← (labels host).mapM looseNumber?
  let last ← numbers.getLast?
  let room := Nat.pow 256 (5 - numbers.length)
  if numbers.length ≤ 4 && numbers.dropLast.all (· < 256) && last < room then
    pure (numbers.dropLast.foldr (fun byte (low, weight) => (low + weight * byte, 256 * weight))
      (last, room)).1
  else none

/-- An address of version four in plain notation. -/
def dotted (n : Nat) : String :=
  ".".intercalate ([n / 16777216, n / 65536 % 256, n / 256 % 256, n % 256].map toString)

/-! ### Version six -/

/-- Whether a group of an address of version six has one to four hexadecimal digits. -/
def isGroup (cs : List Char) : Bool :=
  !cs.isEmpty && decide (cs.length ≤ 4) && cs.all fun c => (Text.Percent.hexValue? c).isSome

/-- Whether a group is an address of version four in plain notation. -/
def isPlainVersionFour (cs : List Char) : Bool :=
  let parts := Text.splitOn '.' cs
  parts.length = 4 && parts.all fun p =>
    !p.isEmpty && p.all isDigit && decide (ofDigits p < 256) && (p.length = 1 || p.head? ≠ some '0')

/-- How many groups a run of groups stands for; an address of version four may end it. -/
def groupCount? (groups : List (List Char)) : Option Nat :=
  match groups.reverse with
  | [] => some 0
  | last :: before =>
    if !before.all isGroup then none
    else if isGroup last then some (before.length + 1)
    else if isPlainVersionFour last then some (before.length + 2)
    else none

/-- The places of two colons in a row, as the parts around the first of them. -/
def splitDouble? : List Char → Option (List Char × List Char)
  | ':' :: ':' :: rest => some ([], rest)
  | c :: rest => (splitDouble? rest).map fun (before, after) => (c :: before, after)
  | [] => none

/-- The groups of one side of an address of version six. -/
def groupsOf (cs : List Char) : List (List Char) :=
  if cs.isEmpty then [] else Text.splitOn ':' cs

/-- Whether characters form an address of version six: eight groups, or fewer around two colons. -/
def isVersionSix (cs : List Char) : Bool :=
  match splitDouble? cs with
  | none => groupCount? (groupsOf cs) == some 8
  | some (before, after) =>
    match (groupsOf before).all isGroup, groupCount? (groupsOf after) with
    | true, some n => decide ((groupsOf before).length + n ≤ 7)
    | _, _ => false

end ShopSync.Http.Host
