import ShopSync.Json.Value

/-!
Reading records from trees.

A decoder looks at a tree with a number of levels of nesting left and either has an answer or
none.  A record is an object, or an array that gives the fields in the order of their declaration.
In an object, fields that the record does not have are passed over without being looked at, and a
field that is given twice is refused; in an array nothing may follow the last field.
-/

namespace ShopSync.Json

/-- Reads an answer from a tree, with a number of levels of nesting left. -/
abbrev Decoder (α : Type) := (room : Nat) → Tree → Option α

namespace Decoder

/-! ### Plain values -/

/-- A text. -/
def text : Decoder String
  | _, .string s => s
  | _, _ => none

/-- A truth value. -/
def bool : Decoder Bool
  | _, .bool b => some b
  | _, _ => none

/-- Nothing but null. -/
def null : Decoder Unit
  | _, .null => some ()
  | _, _ => none

/-- A floating-point number; a whole number counts as one. -/
def real : Decoder Number.Binary64
  | _, .number n => n.map Json.Number.toReal
  | _, _ => none

/-- A whole number; a numeral with a point or an exponent is none. -/
def integer : Decoder Int
  | _, .number (some (.integer n)) => some n
  | _, _ => none

/-- A whole number in the signed range of 64 bits. -/
def int64 : Decoder Int := fun room t => do
  let n ← integer room t
  if -Number.int64Limit ≤ n ∧ n < Number.int64Limit then pure n else none

/-- A natural number below a bound. -/
def natBelow (bound : Nat) : Decoder Nat := fun room t => do
  let n ← integer room t
  if 0 ≤ n ∧ n < bound then pure n.toNat else none

/-- An unsigned number of 32 bits. -/
def uint32 : Decoder UInt32 := fun room t => (natBelow UInt32.size room t).map UInt32.ofNat

/-- An unsigned number of 64 bits. -/
def uint64 : Decoder UInt64 := fun room t => (natBelow UInt64.size room t).map UInt64.ofNat

/-- A count. -/
def count : Decoder Nat := natBelow UInt64.size

/-- Any value. -/
def value : Decoder Value := Tree.value?

/-- Null for nothing, or else the answer of a decoder. -/
def nullable (d : Decoder α) : Decoder (Option α)
  | _, .null => some none
  | room, t => (d room t).map some

/-- The answers for all elements of an array. -/
def list (d : Decoder α) : Decoder (List α)
  | room + 1, .array ts => ts.mapM (d room)
  | _, _ => none

/-- A text that a reading function accepts. -/
def parsed (read : String → Except ε α) : Decoder α := fun room t => do
  let s ← text room t
  (read s).toOption

/-- A named choice: its name, or an object with the name as its only key and null as its value. -/
def choice (named : String → Option α) : Decoder α
  | _, .string s => s.bind named
  | _ + 1, .object [(some key, .null)] => named key
  | _, _ => none

/-! ### Records -/

/-- The fields that were found for a record. -/
structure Fields where
  /-- Levels of nesting left for the fields. -/
  room : Nat
  found : List (String × Tree)

/-- The members whose keys are among the names; refused when one of them is repeated or when a
key has no value. -/
def knownMembers (names : List String) :
    List (Option String × Tree) → Option (List (String × Tree))
  | [] => some []
  | (none, _) :: _ => none
  | (some key, t) :: rest => do
    let found ← knownMembers names rest
    if names.contains key then
      if (Keyed.get? key found).isSome then none else pure ((key, t) :: found)
    else pure found

/-- The fields of a record with the given names. -/
def fields (names : List String) : Decoder Fields
  | room + 1, .object ms =>
    (knownMembers names ms).map fun found => { room, found }
  | room + 1, .array ts =>
    if ts.length ≤ names.length then
      some { room, found := names.zip ts }
    else none
  | _, _ => none

/-- A record with the given field names. -/
def record (names : List String) (read : Fields → Option α) : Decoder α :=
  fun room t => (fields names room t).bind read

namespace Fields

/-- A field that has to be there. -/
def required (fs : Fields) (name : String) (d : Decoder α) : Option α :=
  (Keyed.get? name fs.found).bind (d fs.room)

/-- A field with a value of its own for when it is left out. -/
def withDefault (fs : Fields) (name : String) (default : α) (d : Decoder α) : Option α :=
  match Keyed.get? name fs.found with
  | none => some default
  | some t => d fs.room t

/-- A field that may be null or left out. -/
def optional (fs : Fields) (name : String) (d : Decoder α) : Option (Option α) :=
  fs.withDefault name none (nullable d)

/-- The values of all fields that were found. -/
def values (fs : Fields) : Option (List (String × Value)) :=
  fs.found.mapM fun (name, t) => (t.value? fs.room).map (name, ·)

end Fields

/-! ### Texts -/

/-- The answer of a decoder for a text. -/
def decode? (d : Decoder α) (s : String) : Option α :=
  (Tree.parse? s).bind (d depthLimit)

/-- The answer of a decoder for a value. -/
def ofValue? (d : Decoder α) (v : Value) : Option α :=
  d depthLimit v.toTree

end Decoder

end ShopSync.Json
