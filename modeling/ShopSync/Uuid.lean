import ShopSync.Json.Decoder
import ShopSync.Text.Percent

/-!
Identifiers of 128 bits.  They are written as 32 lower-case hexadecimal digits in five groups, and
read in that form, without the hyphens, in braces, or with `urn:uuid:` in front.
-/

namespace ShopSync

/-- An identifier. -/
structure Uuid where
  value : BitVec 128
deriving DecidableEq

namespace Uuid

/-- The identifier that comes next when identifiers are counted. -/
def next (id : Uuid) : Uuid := ⟨id.value + 1⟩

/-- The identifier with random bits: four of its bits say that it is of version four, and two that
the version is where it is. -/
def ofRandomBits (n : Nat) : Uuid :=
  ⟨BitVec.ofNat 128 n &&& 0xffffffffffff0fff3fffffffffffffff#128
    ||| 0x00000000000040008000000000000000#128⟩

/-- The last `width` hexadecimal digits of a number. -/
def hexDigits (n : Nat) : (width : Nat) → List Char
  | 0 => []
  | width + 1 => hexDigits (n / 16) width ++ [Json.lowerHex (n % 16)]

/-- The number that hexadecimal digits spell. -/
def ofHex? (cs : List Char) : Option Nat :=
  cs.foldlM (fun n c => (Text.Percent.hexValue? c).map (16 * n + ·)) 0

/-- Five groups of digits with hyphens between them. -/
def grouped (cs : List Char) : List Char :=
  cs.take 8 ++ '-' :: (cs.drop 8).take 4 ++ '-' :: (cs.drop 12).take 4 ++
    '-' :: (cs.drop 16).take 4 ++ '-' :: cs.drop 20

/-- The identifier as a text. -/
def text (id : Uuid) : String :=
  String.ofList (grouped (hexDigits id.value.toNat 32))

/-- The identifier that 32 hexadecimal digits spell. -/
def ofDigits? (cs : List Char) : Option Uuid := do
  let n ← ofHex? cs
  if cs.length = 32 then pure ⟨BitVec.ofNat 128 n⟩ else none

/-- The identifier that five groups of digits spell. -/
def ofGroups? (cs : List Char) : Option Uuid :=
  let ds := cs.take 8 ++ (cs.drop 9).take 4 ++ (cs.drop 14).take 4 ++ (cs.drop 19).take 4
    ++ cs.drop 24
  if grouped ds = cs then ofDigits? ds else none

/-- What says that a name is an identifier. -/
def nameSpace : List Char := ['u', 'r', 'n', ':', 'u', 'u', 'i', 'd', ':']

/-- Reads an identifier. -/
def parse? (s : String) : Option Uuid :=
  match s.toList with
  | '\x7b' :: cs => if cs.getLast? = some '\x7d' then ofGroups? cs.dropLast else none
  | cs =>
    if (cs.take nameSpace.length).map Char.toLower = nameSpace then
      ofGroups? (cs.drop nameSpace.length)
    else if cs.length = 32 then ofDigits? cs
    else ofGroups? cs

/-- The identifier as JSON: its text. -/
def toJson (id : Uuid) : Json.Value := .string id.text

/-- Reads an identifier from JSON. -/
def decoder : Json.Decoder Uuid := fun room t =>
  (Json.Decoder.text room t).bind parse?

end Uuid

end ShopSync
