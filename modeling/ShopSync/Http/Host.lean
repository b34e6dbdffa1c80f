import ShopSync.Http.Host.Label
import ShopSync.Http.Host.Number

/-!
Hosts of addresses.

A host in brackets is an address of version six of the internet protocol.  Any other host may be
written with percent signs and is then a name, or an address of version four when its last label is
a number.
-/

namespace ShopSync.Http

/-- Who is to answer a request. -/
inductive Host where
  /-- A name, in ASCII. -/
  | name (text : String)
  /-- An address of version four, as one number. -/
  | four (number : Nat)
  /-- An address of version six, as it is written. -/
  | six (text : String)
deriving DecidableEq, Repr

namespace Host

/-- The host as it is looked up. -/
def bare : Host → String
  | name text => text
  | four number => dotted number
  | six text => text

/-- The host as it stands in an address. -/
def text : Host → String
  | six text => s!"[{text}]"
  | host => host.bare

/-- Bytes with every `%` and two hexadecimal digits read as one. -/
def percentDecoded : List UInt8 → List UInt8
  | 0x25 :: a :: b :: rest =>
    match Text.Percent.hexValue? (Char.ofNat a.toNat),
      Text.Percent.hexValue? (Char.ofNat b.toNat) with
    | some high, some low => UInt8.ofNat (16 * high + low) :: percentDecoded rest
    | _, _ => 0x25 :: percentDecoded (a :: b :: rest)
  | b :: rest => b :: percentDecoded rest
  | [] => []

/-- The text of a host with its percent signs read; `none` when the bytes are no text. -/
def decoded? (cs : List Char) : Option (List Char) :=
  let bytes := percentDecoded (String.ofList cs).toUTF8.toList
  (String.fromUTF8? (ByteArray.mk bytes.toArray)).map String.toList

/-- Whether the character can stand in a name: it is visible ASCII and has no meaning of its own in
an address. -/
def isNameChar (c : Char) : Bool :=
  decide (0x20 < c.toNat) && decide (c.toNat < 0x7f) &&
    !(['#', '/', ':', '<', '>', '?', '@', '[', '\\', ']', '^', '|', '%', '"', '\x60', '\x7b',
      '\x7d'].contains c)

/-- The host that characters name. -/
def parse? (cs : List Char) : Option Host := do
  let ascii ← ascii? (← decoded? cs)
  if ascii.isEmpty || !ascii.all isNameChar then none
  else if endsInNumber ascii then (versionFour? ascii).map four
  else pure (name (String.ofList ascii))

/-- The host that the characters in brackets name. -/
def ofBrackets? (cs : List Char) : Option Host :=
  if isVersionSix cs then some (six (String.ofList cs)) else none

end Host

end ShopSync.Http
