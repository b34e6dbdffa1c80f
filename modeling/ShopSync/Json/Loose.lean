import ShopSync.Json.Value
import ShopSync.Text.Truncate

/-!
Looking for fields in objects whose types cannot be relied on.

Every look answers: a field that is missing or of another type than expected counts as not given
and has no influence on any other field.  Identifiers and whole numbers may come as numbers or as
texts, and a fraction is cut off.
-/

namespace ShopSync.Json.Loose

/-- The members of an object. -/
abbrev Members := List (String × Value)

/-! ### Single values -/

/-- A whole number of 64 bits.  A number past them is replaced by the nearest end of the range. -/
def integerOf : Value → Option Int
  | .number (.integer n) => if n < Number.int64Limit then some n else some (Number.Binary64.ofInt n).truncInt64
  | .number (.real x) => some x.truncInt64
  | .string s => Number.int64? (Text.trim s)
  | _ => none

/-- An identifier: a text that is not blank, without the blanks around it, or a whole number. -/
def identifierOf : Value → Option String
  | .string s => if Text.isBlankText s then none else some (Text.trim s)
  | .number n =>
    (integerOf (.number n)).map fun n => String.ofList (Number.integerText n)
  | _ => none

/-- A text, or the numeral of a number. -/
def textOf : Value → Option String
  | .string s => some s
  | .number n => some (String.ofList n.write)
  | _ => none

/-- The texts in an array. -/
def textsOf : Value → List String
  | .array vs => vs.filterMap fun
    | .string s => some s
    | _ => none
  | _ => []

/-- The members of an object. -/
def objectOf : Value → Option Members
  | .object ms => some ms
  | _ => none

/-- The objects in an array. -/
def objectsOf : Value → List Members
  | .array vs => vs.filterMap objectOf
  | _ => []

/-! ### Fields -/

/-- A whole number in a field. -/
def integer (ms : Members) (key : String) : Option Int :=
  (Keyed.get? key ms).bind integerOf

/-- An identifier in a field. -/
def identifier (ms : Members) (key : String) : Option String :=
  (Keyed.get? key ms).bind identifierOf

/-- A text in a field. -/
def text (ms : Members) (key : String) : Option String :=
  (Keyed.get? key ms).bind textOf

/-- The texts in a field. -/
def texts (ms : Members) (key : String) : List String :=
  ((Keyed.get? key ms).map textsOf).getD []

/-- The object in a field. -/
def object (ms : Members) (key : String) : Option Members :=
  (Keyed.get? key ms).bind objectOf

/-- The objects in a field. -/
def objects (ms : Members) (key : String) : List Members :=
  ((Keyed.get? key ms).map objectsOf).getD []

end ShopSync.Json.Loose
