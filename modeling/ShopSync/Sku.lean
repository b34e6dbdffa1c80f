import ShopSync.Json.Decoder
import ShopSync.Text.Truncate
import ShopSync.Validation

/-!
Stock-keeping units, the keys that join a product of the shop with its remote listing.

A SKU is a trimmed text of 1 to 64 characters without control characters; the condition is part
of the type.  Beyond trimming it is kept as it was given, since marketplaces compare it so.
-/

namespace ShopSync

namespace Sku

/-- The most characters a SKU may have. -/
def maxLength : Nat := 64

/-- The characters of a SKU: trimmed, some but not too many, and none a control character. -/
def IsNormal (cs : List Char) : Prop :=
  Text.strip cs = cs ∧ cs ≠ [] ∧ cs.length ≤ maxLength ∧ cs.all (fun c => !Text.isControl c) = true

instance (cs : List Char) : Decidable (IsNormal cs) := by unfold IsNormal; infer_instance

end Sku

/-- A stock-keeping unit. -/
structure Sku where
  text : String
  normal : Sku.IsNormal text.toList
deriving DecidableEq

namespace Sku

/-- Reads a SKU from a text.  The text is trimmed first; emptiness is noticed before length, and
length before control characters. -/
def parse (input : String) : Except ValidationError Sku :=
  let cs := Text.strip input.toList
  if hne : cs = [] then .error .emptySku
  else if hlen : maxLength < cs.length then .error (.skuTooLong cs.length maxLength)
  else match hctl : cs.findIdx? Text.isControl with
    | some index => .error (.skuControlChar index)
    | none => .ok
      { text := String.ofList cs
        normal := by
          rw [String.toList_ofList]
          refine ⟨Text.strip_strip _, hne, Nat.le_of_not_lt hlen, ?_⟩
          rw [List.findIdx?_eq_none_iff] at hctl
          simpa using hctl }

/-- The SKU as JSON: its text. -/
def toJson (sku : Sku) : Json.Value := .string sku.text

/-- Reads a SKU from JSON. -/
def decoder : Json.Decoder Sku := Json.Decoder.parsed parse

end Sku

end ShopSync
