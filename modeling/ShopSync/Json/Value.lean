import ShopSync.Json.Tree
import ShopSync.Keyed

/-!
Values of JSON.

A value is what a tree means to a reader that looks at all of it: every numeral and string has a
value, no key of an object is repeated (the last one of the text counts), and arrays and objects
are nested no deeper than `depthLimit`.
-/

namespace ShopSync.Json

/-- A value of JSON. -/
inductive Value where
  | null
  | bool (b : Bool)
  | number (value : Number)
  | string (value : String)
  | array (elements : List Value)
  | object (members : List (String × Value))

/-- How deep arrays and objects may be nested. -/
def depthLimit : Nat := 127

mutual
/-- The value of a tree, when there is one with at most `room` levels of nesting. -/
def Tree.value? (room : Nat) : Tree → Option Value
  | .null => some .null
  | .bool b => some (.bool b)
  | .number n => n.map .number
  | .string s => s.map .string
  | .array ts =>
    match room with
    | 0 => none
    | room + 1 => (elementValues? room ts).map .array
  | .object ms =>
    match room with
    | 0 => none
    | room + 1 => (memberValues? room [] ms).map .object

/-- The values of the elements of an array. -/
def elementValues? (room : Nat) : List Tree → Option (List Value)
  | [] => some []
  | t :: ts =>
    match t.value? room with
    | none => none
    | some v => (elementValues? room ts).map (v :: ·)

/-- The values of the members of an object, added to those before; a later member takes the place
of an earlier one. -/
def memberValues? (room : Nat) (done : List (String × Value)) :
    List (Option String × Tree) → Option (List (String × Value))
  | [] => some done
  | (key, t) :: ms =>
    match key, t.value? room with
    | some key, some v => memberValues? room (Keyed.put key v done) ms
    | _, _ => none
end

/-- The value of a text. -/
def Value.parse? (text : String) : Option Value :=
  (Tree.parse? text).bind (Tree.value? depthLimit)

namespace Value

mutual
/-- The tree of a value. -/
def toTree : Value → Tree
  | .null => .null
  | .bool b => .bool b
  | .number n => .number (some n)
  | .string s => .string (some s)
  | .array vs => .array (treesOf vs)
  | .object ms => .object (memberTreesOf ms)

/-- The trees of values. -/
def treesOf : List Value → List Tree
  | [] => []
  | v :: vs => v.toTree :: treesOf vs

/-- The trees of the members of an object. -/
def memberTreesOf : List (String × Value) → List (Option String × Tree)
  | [] => []
  | (k, v) :: ms => (some k, v.toTree) :: memberTreesOf ms
end

/-! ### Building values -/

/-- A whole number. -/
def ofInt (n : Int) : Value := .number (.integer n)

/-- A natural number. -/
def ofNat (n : Nat) : Value := .number (.integer n)

/-- A floating-point number; there is no numeral for one that is not finite. -/
def ofReal (x : Number.Binary64) : Value :=
  if x.isFinite then .number (.real x) else .null

/-- A list of values. -/
def ofList (f : α → Value) (xs : List α) : Value := .array (xs.map f)

/-- A member that is left out when there is nothing to say. -/
def optionalMember (key : String) (f : α → Value) : Option α → List (String × Value)
  | none => []
  | some a => [(key, f a)]

/-! ### Looking into values -/

/-- The members of an object; none for any other value. -/
def members : Value → List (String × Value)
  | .object ms => ms
  | _ => []

/-- The member of an object. -/
def get? (v : Value) (key : String) : Option Value :=
  Keyed.get? key v.members

mutual
/-- The value with the members of every object in the order of their keys. -/
def sorted : Value → Value
  | .array vs => .array (sortedElements vs)
  | .object ms => .object ((sortedMembers ms).mergeSort fun a b => decide (a.1 ≤ b.1))
  | v => v

/-- The elements, each with sorted members. -/
def sortedElements : List Value → List Value
  | [] => []
  | v :: vs => v.sorted :: sortedElements vs

/-- The members in their order, each with sorted members of its own. -/
def sortedMembers : List (String × Value) → List (String × Value)
  | [] => []
  | (k, v) :: ms => (k, v.sorted) :: sortedMembers ms
end

end Value

end ShopSync.Json
