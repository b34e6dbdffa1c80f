import ShopSync.Proofs.Json.Restore
import ShopSync.Proofs.Text.Truncate
import ShopSync.Sku

/-!
Which texts are read as SKUs.

A text is read as a SKU by what is left of it once it is trimmed (`Sku.parse_eq_ok_iff`), and that
decides alone whether it is one (`Sku.IsAcceptable`).  The text of a SKU is what trimming leaves of
it, so it is read as the SKU again, also when it went through JSON.
-/

namespace ShopSync

theorem Text.isStripped_trim (s : String) : IsStripped s.toList (trim s).toList := by
  rw [trim, String.toList_ofList]
  exact strip_eq_iff.1 rfl

namespace Sku

open Json (Decoder Layout Tree)

/-- A trimmed text that can be the one of a SKU: there is something, but not too much, and no
control character. -/
structure IsAcceptable (text : String) : Prop where
  nonempty : text ≠ ""
  length_le : text.length ≤ 64
  noControl : ∀ c ∈ text.toList, Text.isControl c = false

variable {input text : String} {sku : Sku}

theorem isNormal_trim_iff :
    IsNormal (Text.trim input).toList ↔ IsAcceptable (Text.trim input) := by
  have hstrip : Text.strip (Text.trim input).toList = (Text.trim input).toList := by
    rw [Text.trim, String.toList_ofList, Text.strip_strip]
  have hempty : (Text.trim input).toList ≠ [] ↔ Text.trim input ≠ "" := by
    rw [Ne, String.toList_eq_nil_iff]
  have hcontrol : (Text.trim input).toList.all (fun c => !Text.isControl c) = true ↔
      ∀ c ∈ (Text.trim input).toList, Text.isControl c = false := by
    simp only [List.all_eq_true, Bool.not_eq_true']
  rw [IsNormal, hempty, hcontrol, String.length_toList]
  constructor
  · rintro ⟨-, hne, hlength, hall⟩
    exact ⟨hne, hlength, hall⟩
  · rintro ⟨hne, hlength, hall⟩
    exact ⟨hstrip, hne, hlength, hall⟩

/-- A text is read as a SKU when the SKU is what is left of it. -/
theorem parse_eq_ok_iff : parse input = .ok sku ↔ sku.text = Text.trim input := by
  constructor
  · intro h
    rw [parse] at h
    split at h
    · cases h
    · split at h
      · cases h
      · split at h
        · cases h
        · cases h
          rfl
  · intro h
    obtain ⟨text, hnormal⟩ := sku
    subst h
    have hchars : (Text.trim input).toList = Text.strip input.toList := String.toList_ofList
    obtain ⟨-, hne, hlength, hcontrol⟩ := hchars ▸ hnormal
    have hindex : (Text.strip input.toList).findIdx? Text.isControl = none := by
      simpa [List.findIdx?_eq_none_iff] using hcontrol
    rw [parse, dif_neg hne, dif_neg (Nat.not_lt.2 hlength)]
    split
    next index hfound => simp [hindex] at hfound
    next => rfl

theorem exists_parse_iff : (∃ sku, parse input = .ok sku) ↔ IsAcceptable (Text.trim input) := by
  rw [← isNormal_trim_iff]
  constructor
  · rintro ⟨sku, h⟩
    rw [← parse_eq_ok_iff.1 h]
    exact sku.normal
  · intro h
    exact ⟨⟨_, h⟩, parse_eq_ok_iff.2 rfl⟩

/-! ### Texts of SKUs -/

theorem trim_text (sku : Sku) : Text.trim sku.text = sku.text := by
  rw [Text.trim, sku.normal.1, String.ofList_toList]

theorem parse_text (sku : Sku) : parse sku.text = .ok sku := parse_eq_ok_iff.2 sku.trim_text.symm

theorem isAcceptable_text (sku : Sku) : IsAcceptable sku.text :=
  sku.trim_text ▸ exists_parse_iff.1 ⟨sku, sku.parse_text⟩

/-! ### JSON -/

theorem decode?_write (sku : Sku) {layout : Layout} (hlayout : layout.IsPlain) (level : Nat) :
    Decoder.decode? decoder (String.ofList (sku.toJson.write layout level)) = some sku :=
  (Decoder.restores_parsed sku.parse_text).decode?_write (Nat.zero_le _) hlayout level

/-- There is no other way to a SKU from JSON than by a text that is read as one. -/
theorem decoder_eq_some_iff {room : Nat} {tree : Tree} :
    decoder room tree = some sku ↔ ∃ s, tree = .string (some s) ∧ parse s = .ok sku := by
  have hread (s : String) : (parse s).toOption = some sku ↔ parse s = .ok sku := by
    cases parse s <;> simp [Except.toOption]
  constructor
  · intro h
    obtain ⟨s, hs, hsku⟩ := Option.bind_eq_some_iff.1 h
    cases tree with
    | string written =>
      obtain rfl : written = some s := hs
      exact ⟨s, rfl, (hread s).1 hsku⟩
    | _ => cases hs
  · rintro ⟨s, rfl, hsku⟩
    exact (hread s).2 hsku

theorem decode?_eq_some_iff :
    Decoder.decode? decoder text = some sku ↔
      ∃ s, Tree.parse? text = some (.string (some s)) ∧ parse s = .ok sku := by
  rw [Decoder.decode?, Option.bind_eq_some_iff]
  constructor
  · rintro ⟨tree, htree, h⟩
    obtain ⟨s, rfl, hsku⟩ := decoder_eq_some_iff.1 h
    exact ⟨s, htree, hsku⟩
  · rintro ⟨s, htree, hsku⟩
    exact ⟨_, htree, decoder_eq_some_iff.2 ⟨s, rfl, hsku⟩⟩

/-- A tab at the end is a blank and goes; one in the middle is a control character. -/
example : (∃ sku, parse "\u3000mug 1\t" = .ok sku ∧ sku.text = "mug 1") ∧
    parse "mug\t1" = .error (.skuControlChar 3) :=
  ⟨⟨_, rfl, by decide⟩, by decide⟩

end Sku

end ShopSync
