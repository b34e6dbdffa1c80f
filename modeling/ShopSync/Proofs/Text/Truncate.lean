import Mathlib.Data.List.TakeWhile
import ShopSync.Text.Truncate

/-!
Trimmed texts, blank ones and shortened ones.

What trimming leaves of a text is the one part of it that begins and ends with something else than a
blank and has nothing but blanks around it (`IsStripped`).  A text is blank when nothing is left of
it, and trimming it makes no difference to that.  What shortening leaves is determined by the lengths
of the text and of the room for it (`IsTruncation`), and a text that was shortened once fits, so it
is not shortened again.
-/

namespace ShopSync.Text

/-! ### What is left -/

/-- The characters without the blanks they end in. -/
structure IsEndStripped (cs kept : List Char) : Prop where
  behind : ∃ blanks, cs = kept ++ blanks ∧ ∀ c ∈ blanks, isBlank c = true
  last : ∀ c, kept.getLast? = some c → isBlank c = false

/-- The characters without the blanks around them. -/
structure IsStripped (cs kept : List Char) : Prop where
  around : ∃ before behind, cs = before ++ kept ++ behind ∧ (∀ c ∈ before, isBlank c = true) ∧
    ∀ c ∈ behind, isBlank c = true
  first : ∀ c, kept.head? = some c → isBlank c = false
  last : ∀ c, kept.getLast? = some c → isBlank c = false

section Trimming

variable {cs kept : List Char}

theorem stripEnd_eq_iff : stripEnd cs = kept ↔ IsEndStripped cs kept := by
  constructor
  · rintro rfl
    refine ⟨⟨(cs.reverse.takeWhile isBlank).reverse, ?_, fun c hc => ?_⟩, fun c hc => ?_⟩
    · rw [stripEnd, ← List.reverse_append, List.takeWhile_append_dropWhile, List.reverse_reverse]
    · exact List.mem_takeWhile_imp (List.mem_reverse.1 hc)
    · rw [stripEnd, List.getLast?_reverse] at hc
      exact head?_dropWhile_isBlank _ c hc
  · rintro ⟨⟨blanks, rfl, hblanks⟩, hlast⟩
    rw [stripEnd, List.reverse_append, List.dropWhile_append_of_pos fun c hc =>
      hblanks c (List.mem_reverse.1 hc), dropWhile_eq_self, List.reverse_reverse]
    rwa [List.head?_reverse]

/-- The first character that is left after the blanks in front is still the first when those at the
end are gone. -/
theorem head?_strip {c : Char} (h : (strip cs).head? = some c) : isBlank c = false := by
  obtain ⟨rest, hrest⟩ := stripEnd_isPrefix (cs.dropWhile isBlank)
  change strip cs ++ rest = _ at hrest
  refine head?_dropWhile_isBlank cs c ?_
  rw [← hrest, List.head?_append, h, Option.some_or]

theorem strip_eq_iff : strip cs = kept ↔ IsStripped cs kept := by
  constructor
  · rintro rfl
    obtain ⟨⟨behind, hsplit, hbehind⟩, hlast⟩ :=
      stripEnd_eq_iff.1 (rfl : stripEnd (cs.dropWhile isBlank) = strip cs)
    refine ⟨⟨cs.takeWhile isBlank, behind, ?_, fun c hc => List.mem_takeWhile_imp hc, hbehind⟩,
      fun c hc => head?_strip hc, hlast⟩
    rw [List.append_assoc, strip, ← hsplit, List.takeWhile_append_dropWhile]
  · rintro ⟨⟨before, behind, rfl, hbefore, hbehind⟩, hfirst, hlast⟩
    rw [strip, List.append_assoc, List.dropWhile_append_of_pos hbefore, stripEnd_eq_iff]
    cases kept with
    | nil =>
      rw [List.nil_append, List.dropWhile_eq_nil_iff.2 hbehind]
      exact ⟨⟨[], rfl, List.forall_mem_nil _⟩, hlast⟩
    | cons c rest =>
      rw [List.cons_append, List.dropWhile_cons_of_neg (by simp [hfirst c rfl])]
      exact ⟨⟨behind, rfl, hbehind⟩, hlast⟩

/-! ### Blank texts -/

theorem isStripped_nil_iff : IsStripped cs [] ↔ ∀ c ∈ cs, isBlank c = true := by
  constructor
  · rintro ⟨⟨before, behind, rfl, hbefore, hbehind⟩, -, -⟩
    simpa [or_imp, forall_and] using ⟨hbefore, hbehind⟩
  · intro h
    exact ⟨⟨cs, [], by simp, h, List.forall_mem_nil _⟩, nofun, nofun⟩

theorem trim_eq_empty_iff {s : String} : trim s = "" ↔ isBlankText s = true := by
  rw [trim, ← String.toList_inj, String.toList_ofList, isBlankText, List.all_eq_true]
  exact strip_eq_iff.trans isStripped_nil_iff

theorem isBlankText_trim (s : String) : isBlankText (trim s) = isBlankText s := by
  rw [Bool.eq_iff_iff, ← trim_eq_empty_iff, ← trim_eq_empty_iff, trim, trim, String.toList_ofList,
    strip_strip]

end Trimming

/-! ### Shortened texts -/

/-- What becomes of a text when there is room for `limit` characters.  A text that fits stays as it
is.  Any other is cut where the ellipsis still fits behind, and then at the end of a word; if there
is no more room than for the ellipsis, dots are all that is left. -/
structure IsTruncation (s : String) (limit : Nat) (t : String) : Prop where
  length_le : t.length ≤ limit
  eq_iff : t = s ↔ s.length ≤ limit
  cut : limit < s.length → 3 < limit →
    ∃ kept, IsEndStripped (s.toList.take (limit - 3)) kept ∧ t = String.ofList kept ++ "..."
  dots : limit < s.length → limit ≤ 3 → t = String.ofList (List.replicate limit '.')

variable {s t : String} {limit : Nat}

theorem truncate_of_length_le (h : s.length ≤ limit) : truncate s limit = s := by
  rw [← String.length_toList] at h
  rw [truncate, truncateChars, if_pos h, String.ofList_toList]

theorem truncate_of_lt (h : limit < s.length) (hroom : 3 < limit) :
    truncate s limit = String.ofList (stripEnd (s.toList.take (limit - 3))) ++ "..." := by
  have hlong : ¬ s.toList.length ≤ limit := by rw [String.length_toList]; omega
  have hcut : ¬ limit ≤ ellipsis.length := Nat.not_le.2 hroom
  rw [truncate, truncateChars, if_neg hlong, if_neg hcut, String.ofList_append]
  rfl

theorem truncate_of_le_three (h : limit < s.length) (hroom : limit ≤ 3) :
    truncate s limit = String.ofList (List.replicate limit '.') := by
  have hlong : ¬ s.toList.length ≤ limit := by rw [String.length_toList]; omega
  have hdots : ellipsis = List.replicate 3 '.' := rfl
  rw [truncate, truncateChars, if_neg hlong, if_pos (show limit ≤ ellipsis.length from hroom),
    hdots, List.take_replicate, Nat.min_eq_left hroom]

theorem length_truncate_le (s : String) (limit : Nat) : (truncate s limit).length ≤ limit := by
  by_cases hfits : s.length ≤ limit
  · rwa [truncate_of_length_le hfits]
  · by_cases hroom : limit ≤ 3
    · rw [truncate_of_le_three (Nat.lt_of_not_le hfits) hroom, String.length_ofList,
        List.length_replicate]
    · rw [truncate_of_lt (Nat.lt_of_not_le hfits) (Nat.lt_of_not_le hroom), String.length_append,
        String.length_ofList]
      have hkept := (stripEnd_isPrefix (s.toList.take (limit - 3))).length_le
      have htaken := List.length_take_le (limit - 3) s.toList
      have hdots : "...".length = 3 := rfl
      omega

theorem isTruncation_truncate (s : String) (limit : Nat) :
    IsTruncation s limit (truncate s limit) where
  length_le := length_truncate_le s limit
  eq_iff := ⟨fun h => h ▸ length_truncate_le s limit, truncate_of_length_le⟩
  cut h hroom := ⟨_, stripEnd_eq_iff.1 rfl, truncate_of_lt h hroom⟩
  dots := truncate_of_le_three

/-- The lengths say what becomes of the text, so there is nothing else it can become. -/
theorem truncate_eq_iff : truncate s limit = t ↔ IsTruncation s limit t := by
  constructor
  · rintro rfl
    exact isTruncation_truncate s limit
  · intro h
    by_cases hfits : s.length ≤ limit
    · rw [truncate_of_length_le hfits, h.eq_iff.2 hfits]
    · have hlong := Nat.lt_of_not_le hfits
      by_cases hroom : limit ≤ 3
      · rw [truncate_of_le_three hlong hroom, h.dots hlong hroom]
      · obtain ⟨kept, hkept, rfl⟩ := h.cut hlong (Nat.lt_of_not_le hroom)
        rw [truncate_of_lt hlong (Nat.lt_of_not_le hroom), stripEnd_eq_iff.2 hkept]

/-- A shortened text fits wherever there is as much room. -/
theorem truncate_truncate {limit' : Nat} (h : limit ≤ limit') :
    truncate (truncate s limit) limit' = truncate s limit :=
  truncate_of_length_le ((length_truncate_le s limit).trans h)

/-- The blanks in front of the ellipsis go, and they may be all there is. -/
example : truncate "Blue   enamel mug" 9 = "Blue..." ∧ truncate "\u3000\t      mug" 9 = "..." := by
  decide

end ShopSync.Text
