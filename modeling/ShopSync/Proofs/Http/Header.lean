import Mathlib.Tactic
import ShopSync.Http.Request

/-!
Header fields of requests.

A request is set up in steps, and every step that sets a field may spell its name in its own way.
Two spellings are one name when they differ in nothing but the case of ASCII letters (`SameName`).
Whatever the steps are, a name leads to what the last step set that has it, and a request never has
two fields of one name (`Request.headers_ofSteps`).
-/

namespace ShopSync.Http

/-! ### Names -/

/-- The same character, or the two cases of an ASCII letter. -/
def SameLetter (c d : Char) : Prop :=
  c = d ∨ (c.isUpper = true ∧ d.toNat = c.toNat + 32) ∨ (d.isUpper = true ∧ c.toNat = d.toNat + 32)

/-- The two are spellings of one name. -/
def SameName (s t : String) : Prop := List.Forall₂ SameLetter s.toList t.toList

section Names

variable {c d : Char} {s t : String}

theorem isUpper_iff_val : c.isUpper = true ↔ c.val ≥ 'A'.val ∧ c.val ≤ 'Z'.val :=
  decide_eq_true_iff

theorem isUpper_iff : c.isUpper = true ↔ 65 ≤ c.toNat ∧ c.toNat ≤ 90 := by
  simp only [isUpper_iff_val, ge_iff_le, UInt32.le_iff_toNat_le]
  rfl

theorem toNat_toLower (c : Char) :
    c.toLower.toNat = if c.isUpper = true then c.toNat + 32 else c.toNat := by
  unfold Char.toLower
  by_cases h : c.isUpper = true
  · rw [dif_pos (isUpper_iff_val.1 h), if_pos h]
    rw [isUpper_iff] at h
    change (c.val + 32).toNat = c.val.toNat + 32
    change 65 ≤ c.val.toNat ∧ c.val.toNat ≤ 90 at h
    rw [UInt32.toNat_add, Nat.mod_eq_of_lt]
    · rfl
    · change c.val.toNat + 32 < 4294967296
      omega
  · rw [dif_neg fun hupper => h (isUpper_iff_val.2 hupper), if_neg h]

theorem toLower_eq_toLower_iff : c.toLower = d.toLower ↔ SameLetter c d := by
  rw [← Char.toNat_inj, toNat_toLower, toNat_toLower, SameLetter, ← Char.toNat_inj]
  simp only [isUpper_iff]
  split <;> split <;> omega

theorem isUpper_toLower (c : Char) : c.toLower.isUpper = false := by
  rw [Bool.eq_false_iff, ne_eq, isUpper_iff, toNat_toLower]
  split
  next h =>
    rw [isUpper_iff] at h
    omega
  next h => rwa [isUpper_iff] at h

theorem toList_toLower (s : String) : s.toLower.toList = s.toList.map Char.toLower :=
  String.toList_map

/-- The spellings of a name are those with the same lower case. -/
theorem lower_eq_lower_iff : s.toLower = t.toLower ↔ SameName s t := by
  rw [← String.toList_inj, toList_toLower, toList_toLower, ← List.forall₂_eq_eq_eq,
    List.forall₂_map_left_iff, List.forall₂_map_right_iff, SameName]
  simp only [toLower_eq_toLower_iff]

theorem lower_eq_self (h : ∀ c ∈ s.toList, c.isUpper = false) : s.toLower = s := by
  rw [← String.toList_inj, toList_toLower]
  refine (List.map_congr_left fun c hc => ?_).trans (List.map_id _)
  rw [← Char.toNat_inj, toNat_toLower, h c hc]
  rfl

theorem isUpper_of_mem_lower (h : c ∈ s.toLower.toList) : c.isUpper = false := by
  rw [toList_toLower] at h
  obtain ⟨d, -, rfl⟩ := List.mem_map.1 h
  exact isUpper_toLower d

end Names

/-! ### Fields -/

/-- The fields of a request as they are kept: no name has an upper-case letter, and no two fields
have one name. -/
structure IsTidy (headers : List (String × String)) : Prop where
  lower : ∀ name ∈ headers.map Prod.fst, ∀ c ∈ name.toList, c.isUpper = false
  apart : (headers.map Prod.fst).Pairwise fun s t => ¬SameName s t

theorem isTidy_nil : IsTidy [] := ⟨List.forall_mem_nil _, .nil⟩

theorem IsTidy.put {headers : List (String × String)} (h : IsTidy headers) (name value : String) :
    IsTidy (Keyed.put name.toLower value headers) := by
  have hnames := Keyed.map_fst_put name.toLower value headers
  by_cases hmem : name.toLower ∈ headers.map Prod.fst
  · rw [if_pos hmem] at hnames
    exact ⟨hnames ▸ h.lower, hnames ▸ h.apart⟩
  · rw [if_neg hmem] at hnames
    refine ⟨?_, ?_⟩
    · rw [hnames, List.forall_mem_append, List.forall_mem_singleton]
      exact ⟨h.lower, fun c hc => isUpper_of_mem_lower hc⟩
    · rw [hnames, List.pairwise_append]
      refine ⟨h.apart, List.pairwise_singleton _ _, fun s hs t ht hsame => hmem ?_⟩
      -- another spelling in lower case would be the same text
      rw [List.mem_singleton.1 ht, ← lower_eq_lower_iff, lower_eq_self (h.lower s hs),
        lower_eq_self fun c hc => isUpper_of_mem_lower hc] at hsame
      exact hsame ▸ hs

/-! ### Steps -/

/-- A step in setting up a request. -/
inductive RequestStep where
  | header (name value : String)
  | auth (how : Auth)
  | body (text : String)
  | timeout (limit : UInt64)

namespace RequestStep

/-- The request after the step. -/
def apply (request : Request) : RequestStep → Request
  | .header name value => request.withHeader name value
  | .auth how => request.withAuth how
  | .body text => request.withBody text
  | .timeout limit => request.withTimeout limit

/-- The step sets the field with the name, however it spells it, to the value. -/
inductive Sets (name : String) : RequestStep → String → Prop
  | header {written value : String} (hname : SameName written name) :
      Sets name (.header written value) value
  | bearer {token : String} (hname : SameName "authorization" name) :
      Sets name (.auth (.bearer token)) ("Bearer " ++ token)
  | secret {written value : String} (hname : SameName written name) :
      Sets name (.auth (.header written value)) value

section Steps

variable {request : Request} {step : RequestStep} {name value value' : String}

theorem Sets.unique (h : step.Sets name value) (h' : step.Sets name value') : value = value' := by
  cases h <;> cases h' <;> rfl

theorem isTidy_apply (h : IsTidy request.headers) (step : RequestStep) :
    IsTidy (step.apply request).headers := by
  cases step with
  | header name value => exact h.put name value
  | auth how =>
    cases how with
    | none => exact h
    | bearer token => exact h.put "authorization" _
    | header name value => exact h.put name value
  | body text => exact h
  | timeout limit => exact h

theorem header?_withHeader (request : Request) (written value name : String) :
    (request.withHeader written value).header? name =
      if written.toLower = name.toLower then some value else request.header? name :=
  Keyed.get?_put _ _ _ _

theorem header?_apply_of_sets (h : step.Sets name value) :
    (step.apply request).header? name = some value := by
  cases h with
  | header hname | bearer hname | secret hname =>
    exact (header?_withHeader _ _ _ _).trans (if_pos (lower_eq_lower_iff.2 hname))

theorem header?_apply_of_not (h : ∀ value, ¬step.Sets name value) :
    (step.apply request).header? name = request.header? name := by
  have hother {written set : String} (hset : SameName written name → step.Sets name set) :
      (request.withHeader written set).header? name = request.header? name := by
    rw [header?_withHeader, if_neg]
    intro hsame
    exact h set (hset (lower_eq_lower_iff.1 hsame))
  cases step with
  | header written set => exact hother .header
  | auth how =>
    cases how with
    | none => rfl
    | bearer token => exact hother .bearer
    | header written set => exact hother .secret
  | body text => rfl
  | timeout limit => rfl

/-- A step decides what a name leads to, or it has nothing to do with the name. -/
theorem header?_apply (request : Request) (step : RequestStep) (name : String) :
    (∃ value, step.Sets name value ∧ (step.apply request).header? name = some value) ∨
      (∀ value, ¬step.Sets name value) ∧
        (step.apply request).header? name = request.header? name := by
  by_cases hsets : ∃ value, step.Sets name value
  · obtain ⟨value, hvalue⟩ := hsets
    exact .inl ⟨value, hvalue, header?_apply_of_sets hvalue⟩
  · rw [not_exists] at hsets
    exact .inr ⟨hsets, header?_apply_of_not hsets⟩

end Steps

end RequestStep

/-- The request that steps come to. -/
def Request.ofSteps (method : Method) (url : String) (steps : List RequestStep) : Request :=
  steps.foldl RequestStep.apply (.new method url)

/-- The last step that sets the field with the name sets it to the value. -/
def SetLast (steps : List RequestStep) (name value : String) : Prop :=
  ∃ before step behind, steps = before ++ step :: behind ∧ step.Sets name value ∧
    ∀ later ∈ behind, ∀ other, ¬later.Sets name other

section OfSteps

variable {method : Method} {url name value : String} {steps : List RequestStep}
variable {step : RequestStep}

theorem ofSteps_concat (method : Method) (url : String) (steps : List RequestStep)
    (step : RequestStep) :
    Request.ofSteps method url (steps ++ [step]) = step.apply (Request.ofSteps method url steps) :=
  List.foldl_concat _ _ _ _

/-- Of more steps the last sets the field, or else those before it did. -/
theorem setLast_concat_iff :
    SetLast (steps ++ [step]) name value ↔
      step.Sets name value ∨ (∀ other, ¬step.Sets name other) ∧ SetLast steps name value := by
  constructor
  · rintro ⟨before, set, behind, hsplit, hset, hbehind⟩
    rcases List.eq_nil_or_concat' behind with rfl | ⟨behind, last, rfl⟩
    · obtain ⟨-, rfl⟩ := List.append_singleton_inj.1 hsplit
      exact .inl hset
    · rw [← List.cons_append, ← List.append_assoc] at hsplit
      obtain ⟨rfl, rfl⟩ := List.append_singleton_inj.1 hsplit
      rw [List.forall_mem_append, List.forall_mem_singleton] at hbehind
      exact .inr ⟨hbehind.2, before, set, behind, rfl, hset, hbehind.1⟩
  · rintro (hset | ⟨hnot, before, set, behind, rfl, hset, hbehind⟩)
    · exact ⟨steps, step, [], rfl, hset, List.forall_mem_nil _⟩
    · refine ⟨before, set, behind ++ [step], by simp, hset, ?_⟩
      rw [List.forall_mem_append, List.forall_mem_singleton]
      exact ⟨hbehind, hnot⟩

theorem header?_ofSteps_eq_some_iff :
    (Request.ofSteps method url steps).header? name = some value ↔ SetLast steps name value := by
  induction steps using List.reverseRecOn with
  | nil =>
    refine iff_of_false (Option.some_ne_none value).symm ?_
    rintro ⟨before, step, behind, hsplit, -⟩
    simp at hsplit
  | append_singleton steps step ih =>
    rw [ofSteps_concat, setLast_concat_iff]
    rcases RequestStep.header?_apply (Request.ofSteps method url steps) step name with
      ⟨set, hset, hfound⟩ | ⟨hnot, hfound⟩
    · rw [hfound, Option.some_inj]
      constructor
      · rintro rfl
        exact .inl hset
      · rintro (hvalue | ⟨hnot, -⟩)
        · exact hset.unique hvalue
        · exact absurd hset (hnot set)
    · rw [hfound, ih]
      constructor
      · exact fun h => .inr ⟨hnot, h⟩
      · rintro (hvalue | ⟨-, h⟩)
        · exact absurd hvalue (hnot value)
        · exact h

theorem header?_ofSteps_eq_none_iff :
    (Request.ofSteps method url steps).header? name = none ↔
      ∀ step ∈ steps, ∀ set, ¬step.Sets name set := by
  induction steps using List.reverseRecOn with
  | nil => exact iff_of_true rfl (List.forall_mem_nil _)
  | append_singleton steps step ih =>
    rw [ofSteps_concat, List.forall_mem_append, List.forall_mem_singleton, ← ih]
    rcases RequestStep.header?_apply (Request.ofSteps method url steps) step name with
      ⟨set, hset, hfound⟩ | ⟨hnot, hfound⟩
    · rw [hfound]
      exact iff_of_false (Option.some_ne_none set) fun h => h.2 set hset
    · rw [hfound]
      exact (and_iff_left hnot).symm

theorem isTidy_ofSteps (method : Method) (url : String) (steps : List RequestStep) :
    IsTidy (Request.ofSteps method url steps).headers := by
  induction steps using List.reverseRecOn with
  | nil => exact isTidy_nil
  | append_singleton steps step ih =>
    rw [ofSteps_concat]
    exact RequestStep.isTidy_apply ih step

end OfSteps

/-- **What the fields of a request are.**  A name leads to the value of the last step that set it,
in whatever spelling, and to nothing when no step did; and a request never has two fields of one
name, which are all kept in lower case. -/
theorem Request.headers_ofSteps (method : Method) (url : String) (steps : List RequestStep) :
    (∀ name value, (Request.ofSteps method url steps).header? name = some value ↔
      SetLast steps name value) ∧
    (∀ name, (Request.ofSteps method url steps).header? name = none ↔
      ∀ step ∈ steps, ∀ value, ¬step.Sets name value) ∧
    IsTidy (Request.ofSteps method url steps).headers :=
  ⟨fun _ _ => header?_ofSteps_eq_some_iff, fun _ => header?_ofSteps_eq_none_iff,
    isTidy_ofSteps method url steps⟩

/-- Of three spellings the last counts, and a letter that is not ASCII makes another name. -/
example :
    let request := Request.ofSteps .get "https://shop.test"
      [.header "X-Api-Key" "first", .auth (.header "x-API-key" "second"), .header "É" "third",
        .auth (.bearer "token"), .auth .none]
    request.header? "X-API-KEY" = some "second" ∧ request.header? "é" = none ∧
      request.header? "AUTHORIZATION" = some "Bearer token" := by
  cbv

end ShopSync.Http
