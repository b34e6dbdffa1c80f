import Mathlib.Tactic
import ShopSync.Keyed

/-!
Lists of keys and values, and what setting values does to them.

Records that are kept one after another (`upsertAll`) stand in the order in which their keys first
came, each as it came last.
-/

namespace ShopSync.Keyed

variable {κ α β : Type} [DecidableEq κ]

theorem put_of_notMem {key : κ} {entries : List (κ × α)} (h : key ∉ entries.map Prod.fst)
    (value : α) : put key value entries = entries ++ [(key, value)] := by
  induction entries with
  | nil => rfl
  | cons entry rest ih =>
    obtain ⟨k, v⟩ := entry
    rw [List.map_cons, List.mem_cons, not_or] at h
    rw [put, if_neg (Ne.symm h.1), ih h.2]
    rfl

omit [DecidableEq κ] in
theorem notMem_of_nodup {entry : κ × α} {done rest : List (κ × α)}
    (h : ((done ++ entry :: rest).map Prod.fst).Nodup) : entry.1 ∉ done.map Prod.fst := by
  rw [List.map_append, List.map_cons, List.nodup_append] at h
  intro hmem
  exact h.2.2 entry.1 hmem entry.1 List.mem_cons_self rfl

/-- Where every step sets the value of a new key, the entries are added in their order. -/
theorem foldlM_put {f : List (κ × α) → β → Option (List (κ × α))} {g : κ × α → β}
    {entries : List (κ × α)} (done : List (κ × α))
    (hf : ∀ found, ∀ entry ∈ entries, f found (g entry) = some (put entry.1 entry.2 found))
    (hkeys : ((done ++ entries).map Prod.fst).Nodup) :
    (entries.map g).foldlM f done = some (done ++ entries) := by
  induction entries generalizing done with
  | nil =>
    rw [List.append_nil]
    rfl
  | cons entry rest ih =>
    rw [List.map_cons, List.foldlM_cons, hf done entry List.mem_cons_self,
      put_of_notMem (notMem_of_nodup hkeys)]
    refine (ih (done ++ [entry]) (fun found e he => hf found e (List.mem_cons_of_mem entry he))
      ?_).trans ?_
    · rwa [List.append_assoc, List.singleton_append]
    · rw [List.append_assoc, List.singleton_append]

theorem upsertBy_of_notMem {ρ : Type} {key : ρ → κ} {record : ρ} {records : List ρ}
    (h : key record ∉ records.map key) : upsertBy key record records = records ++ [record] := by
  induction records with
  | nil => rfl
  | cons old rest ih =>
    rw [List.map_cons, List.mem_cons, not_or] at h
    rw [upsertBy, if_neg (Ne.symm h.1), ih h.2]
    rfl

/-! ### Records that are kept one after another -/

section Records

variable {ρ : Type} {key : ρ → κ} {record other : ρ} {records saved : List ρ}

/-- Keeps records one after another, each in the place of the first one that has its key. -/
def upsertAll (key : ρ → κ) (records saved : List ρ) : List ρ :=
  saved.foldl (fun records record => upsertBy key record records) records

/-- A record is the last one of a list that has its key. -/
def IsLast (key : ρ → κ) (saved : List ρ) (record : ρ) : Prop :=
  ∃ before behind, saved = before ++ record :: behind ∧ ∀ r ∈ behind, key r ≠ key record

/-- A record is the first one of a list that has its key. -/
def IsFirst (key : ρ → κ) (records : List ρ) (record : ρ) : Prop :=
  ∃ before behind, records = before ++ record :: behind ∧ ∀ r ∈ before, key r ≠ key record

theorem find?_eq_some_iff_isFirst :
    records.find? (fun r => decide (key r = key record)) = some record ↔
      IsFirst key records record := by
  rw [List.find?_eq_some_iff_append]
  simp [IsFirst]

theorem upsertAll_concat (key : ρ → κ) (records saved : List ρ) (record : ρ) :
    upsertAll key records (saved ++ [record]) =
      upsertBy key record (upsertAll key records saved) := by
  rw [upsertAll, List.foldl_concat, upsertAll]

theorem eraseDups_concat (keys : List κ) (k : κ) :
    (keys ++ [k]).eraseDups = if k ∈ keys then keys.eraseDups else keys.eraseDups ++ [k] := by
  rw [List.eraseDups_append]
  by_cases hmem : k ∈ keys
  · simp [List.removeAll, hmem]
  · simp [List.removeAll, hmem, List.eraseDups_cons]

/-- The records stand in the order in which their keys first came. -/
theorem map_upsertAll (key : ρ → κ) (saved : List ρ) :
    (upsertAll key [] saved).map key = (saved.map key).eraseDups := by
  induction saved using List.reverseRecOn with
  | nil => rfl
  | append_singleton saved record ih =>
    rw [upsertAll_concat, map_upsertBy, ih, List.map_append, List.map_singleton, eraseDups_concat]
    simp only [List.mem_eraseDups]

theorem nodup_upsertAll (key : ρ → κ) (saved : List ρ) :
    ((upsertAll key [] saved).map key).Nodup := by
  induction saved using List.reverseRecOn with
  | nil => exact List.nodup_nil
  | append_singleton saved record ih =>
    rw [upsertAll_concat, map_upsertBy]
    split
    case isTrue => exact ih
    case isFalse hnew =>
      refine List.nodup_append.2 ⟨ih, List.nodup_singleton _, fun a ha b hb hab => ?_⟩
      rw [List.mem_singleton.1 hb] at hab
      exact hnew (hab ▸ ha)

/-- Where keys are distinct, keeping a record takes away those with its key. -/
theorem mem_upsertBy_iff (hkeys : (records.map key).Nodup) :
    other ∈ upsertBy key record records ↔
      other = record ∨ other ∈ records ∧ key other ≠ key record := by
  induction records with
  | nil => simp [upsertBy]
  | cons first rest ih =>
    obtain ⟨hfirst, hrest⟩ := List.nodup_cons.1 hkeys
    rw [upsertBy]
    split
    case isTrue hsame =>
      -- no other record has the key of the one that goes
      have hothers (h : other ∈ rest) : key other ≠ key record := by
        intro heq
        exact hfirst (hsame.trans heq.symm ▸ List.mem_map_of_mem h)
      simp only [List.mem_cons]
      constructor
      · rintro (rfl | h)
        · exact .inl rfl
        · exact .inr ⟨.inr h, hothers h⟩
      · rintro (rfl | ⟨rfl | h, hne⟩)
        · exact .inl rfl
        · exact absurd hsame hne
        · exact .inr h
    case isFalse hother =>
      rw [List.mem_cons, List.mem_cons, ih hrest]
      constructor
      · rintro (rfl | rfl | ⟨h, hne⟩)
        · exact .inr ⟨.inl rfl, hother⟩
        · exact .inl rfl
        · exact .inr ⟨.inr h, hne⟩
      · rintro (rfl | ⟨rfl | h, hne⟩)
        · exact .inr (.inl rfl)
        · exact .inl rfl
        · exact .inr (.inr ⟨h, hne⟩)

omit [DecidableEq κ] in
theorem isLast_concat_iff :
    IsLast key (saved ++ [record]) other ↔
      other = record ∨ IsLast key saved other ∧ key other ≠ key record := by
  constructor
  · rintro ⟨before, behind, hsplit, hbehind⟩
    rcases List.eq_nil_or_concat' behind with rfl | ⟨behind, last, rfl⟩
    · exact .inl (List.append_singleton_inj.1 hsplit).2.symm
    · rw [← List.cons_append, ← List.append_assoc] at hsplit
      obtain ⟨rfl, rfl⟩ := List.append_singleton_inj.1 hsplit
      exact .inr ⟨⟨before, behind, rfl, fun r hr => hbehind r (List.mem_append_left _ hr)⟩,
        (hbehind record (by simp)).symm⟩
  · rintro (rfl | ⟨⟨before, behind, rfl, hbehind⟩, hne⟩)
    · exact ⟨saved, [], rfl, List.forall_mem_nil _⟩
    · refine ⟨before, behind ++ [record], by simp, fun r hr => ?_⟩
      rcases List.mem_append.1 hr with hr | hr
      · exact hbehind r hr
      · exact List.mem_singleton.1 hr ▸ hne.symm

/-- Each record stands there as it came last. -/
theorem mem_upsertAll_iff : record ∈ upsertAll key [] saved ↔ IsLast key saved record := by
  induction saved using List.reverseRecOn with
  | nil =>
    refine iff_of_false List.not_mem_nil ?_
    rintro ⟨before, behind, hsplit, -⟩
    simp at hsplit
  | append_singleton saved last ih =>
    rw [upsertAll_concat, mem_upsertBy_iff (nodup_upsertAll key saved), isLast_concat_iff, ih]

end Records

/-! ### What keys give -/

theorem get?_map (key : κ) (f : α → β) (entries : List (κ × α)) :
    get? key (entries.map fun entry => (entry.1, f entry.2)) = (get? key entries).map f := by
  induction entries with
  | nil => rfl
  | cons entry rest ih =>
    rw [List.map_cons, get?, get?]
    split
    · rfl
    · exact ih

theorem mem_of_get? {key : κ} {value : α} {entries : List (κ × α)}
    (h : get? key entries = some value) : (key, value) ∈ entries := by
  induction entries with
  | nil => cases h
  | cons entry rest ih =>
    rw [get?] at h
    split at h
    next hkey =>
      cases h
      cases hkey
      exact List.mem_cons_self
    next => exact List.mem_cons_of_mem _ (ih h)

theorem mem_put {key : κ} {value : α} {entry : κ × α} {entries : List (κ × α)}
    (h : entry ∈ put key value entries) : entry = (key, value) ∨ entry ∈ entries := by
  induction entries with
  | nil => exact .inl (List.mem_singleton.1 h)
  | cons first rest ih =>
    rw [put] at h
    split at h
    · exact (List.mem_cons.1 h).imp_right (List.mem_cons_of_mem _)
    · rcases List.mem_cons.1 h with rfl | h
      · exact .inr List.mem_cons_self
      · exact (ih h).imp_right (List.mem_cons_of_mem _)

theorem mem_upsertBy {ρ : Type} {key : ρ → κ} {record other : ρ} {records : List ρ}
    (h : other ∈ upsertBy key record records) : other = record ∨ other ∈ records := by
  induction records with
  | nil => exact .inl (List.mem_singleton.1 h)
  | cons first rest ih =>
    rw [upsertBy] at h
    split at h
    · exact (List.mem_cons.1 h).imp_right (List.mem_cons_of_mem _)
    · rcases List.mem_cons.1 h with rfl | h
      · exact .inr List.mem_cons_self
      · exact (ih h).imp_right (List.mem_cons_of_mem _)

theorem get?_of_mem {key : κ} {value : α} {entries : List (κ × α)}
    (hkeys : (entries.map Prod.fst).Nodup) (h : (key, value) ∈ entries) :
    get? key entries = some value := by
  induction entries with
  | nil => simp at h
  | cons entry rest ih =>
    rw [List.map_cons, List.nodup_cons] at hkeys
    rw [get?]
    rcases List.mem_cons.1 h with rfl | h
    · exact if_pos rfl
    · have hne : entry.1 ≠ key := by
        intro heq
        exact hkeys.1 (List.mem_map.2 ⟨(key, value), h, heq.symm⟩)
      rw [if_neg hne, ih hkeys.2 h]

theorem get?_eq_none_of_notMem {key : κ} {entries : List (κ × α)}
    (h : key ∉ entries.map Prod.fst) : get? key entries = none := by
  induction entries with
  | nil => rfl
  | cons entry rest ih =>
    rw [List.map_cons, List.mem_cons, not_or] at h
    rw [get?, if_neg (Ne.symm h.1), ih h.2]

/-- Keeping entries by their keys does not change what a key that is kept gives. -/
theorem get?_filter {p : κ → Bool} {key : κ} (hkey : p key = true) (entries : List (κ × α)) :
    get? key (entries.filter fun entry => p entry.1) = get? key entries := by
  induction entries with
  | nil => rfl
  | cons entry rest ih =>
    obtain ⟨k, v⟩ := entry
    by_cases hk : k = key
    · subst hk
      simp [get?, hkey]
    · by_cases hp : p k
      · simp [hp, get?, hk, ih]
      · simp [hp, get?, hk, ih]

end ShopSync.Keyed
