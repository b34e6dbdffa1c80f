import Mathlib.Tactic
import ShopSync.Proofs.Json.Sound

/-!
What decoders find.

`Decoder.Yields` says that whatever a decoder finds in a sound tree has a property.  It is shown for
plain values, lists and records, part by part, and for whole values.
-/

namespace ShopSync.Json

/-! ### Values -/

section Values

variable {size : Nat}

mutual
theorem Tree.sound_of_value? (room : Nat) (t : Tree) {v : Value} (h : t.Sound size)
    (hv : t.value? room = some v) : v.toTree.Sound size := by
  cases t with
  | null =>
    cases hv
    trivial
  | bool b =>
    cases hv
    trivial
  | number n =>
    obtain ⟨n, rfl, rfl⟩ := Option.map_eq_some_iff.1 hv
    exact h
  | string s =>
    obtain ⟨s, rfl, rfl⟩ := Option.map_eq_some_iff.1 hv
    trivial
  | array ts =>
    cases room with
    | zero => cases hv
    | succ room =>
      obtain ⟨vs, hvs, rfl⟩ := Option.map_eq_some_iff.1 hv
      obtain ⟨hsound, hlength⟩ := sound_of_elementValues? room ts h.2 hvs
      refine ⟨?_, hsound⟩
      rw [Value.treesOf_eq, List.length_map, hlength]
      exact h.1
  | object ms =>
    cases room with
    | zero => cases hv
    | succ room =>
      obtain ⟨vs, hvs, rfl⟩ := Option.map_eq_some_iff.1 hv
      have hempty : SoundMembers size (Value.memberTreesOf []) := trivial
      exact sound_of_memberValues? room ms h hempty hvs

theorem sound_of_elementValues? (room : Nat) (ts : List Tree) {vs : List Value}
    (h : SoundElements size ts) (hvs : elementValues? room ts = some vs) :
    SoundElements size (Value.treesOf vs) ∧ vs.length = ts.length := by
  cases ts with
  | nil =>
    cases hvs
    exact ⟨trivial, rfl⟩
  | cons t ts =>
    unfold elementValues? at hvs
    split at hvs
    · cases hvs
    next v hv =>
      obtain ⟨rest, hrest, rfl⟩ := Option.map_eq_some_iff.1 hvs
      obtain ⟨hsound, hlength⟩ := sound_of_elementValues? room ts h.2 hrest
      exact ⟨⟨Tree.sound_of_value? room t h.1 hv, hsound⟩, congrArg Nat.succ hlength⟩

theorem sound_of_memberValues? (room : Nat) {done : List (String × Value)}
    (ms : List (Option String × Tree)) {vs : List (String × Value)} (h : SoundMembers size ms)
    (hdone : SoundMembers size (Value.memberTreesOf done))
    (hvs : memberValues? room done ms = some vs) :
    SoundMembers size (Value.memberTreesOf vs) := by
  cases ms with
  | nil =>
    cases hvs
    exact hdone
  | cons m ms =>
    obtain ⟨key, t⟩ := m
    unfold memberValues? at hvs
    split at hvs
    next key v hv =>
      refine sound_of_memberValues? room ms h.2 ?_ hvs
      have hvalue := Tree.sound_of_value? room t h.1 hv
      rw [Value.memberTreesOf_eq, soundMembers_iff, List.forall_mem_map] at hdone ⊢
      intro m hm
      rcases Keyed.mem_put hm with rfl | hm
      · exact hvalue
      · exact hdone m hm
    · cases hvs
end

end Values

namespace Decoder

variable {α β ε : Type} {d : Decoder α} {size : Nat} {p : α → Prop}

/-- What the decoder finds in a tree that is sound for a size has the property. -/
def Yields (d : Decoder α) (size : Nat) (p : α → Prop) : Prop :=
  ∀ ⦃room : Nat⦄ ⦃t : Tree⦄ ⦃a : α⦄, t.Sound size → d room t = some a → p a

/-- What the decoder finds in a text has the property for the length of the text. -/
theorem Yields.of_decode? {text : String} {a : α} (h : d.Yields text.length p)
    (hdecode : decode? d text = some a) : p a := by
  obtain ⟨t, ht, ha⟩ := Option.bind_eq_some_iff.1 hdecode
  exact h (Tree.sound_of_parse? ht) ha

/-! ### Plain values -/

theorem yields_trivial (d : Decoder α) : d.Yields size fun _ => True :=
  fun _ _ _ _ _ => trivial

theorem yields_real : real.Yields size fun x => x.isFinite = true := by
  intro room t x ht h
  unfold real at h
  split at h
  next n =>
    obtain ⟨n, rfl, rfl⟩ := Option.map_eq_some_iff.1 h
    cases n with
    | integer n =>
      have hword : n.natAbs ≤ 2 ^ 64 := by
        obtain ⟨hlow, hhigh⟩ : IsWord n := ht
        have hsize : (UInt64.size : Int) = 2 ^ 64 := rfl
        simp only [Number.int64Limit] at hlow
        omega
      exact (Number.Binary64.atMost_ofInt (by decide) hword).isFinite
    | real x => exact ht
  next => cases h

theorem yields_natBelow (bound : Nat) : (natBelow bound).Yields size fun n => n < bound := by
  intro room t n _ h
  obtain ⟨m, -, h⟩ := Option.bind_eq_some_iff.1 h
  split at h
  next hbounds =>
    cases h
    omega
  next => cases h

theorem yields_count : count.Yields size fun n => n < UInt64.size := yields_natBelow UInt64.size

theorem yields_parsed {read : String → Except ε α} (h : ∀ s a, read s = .ok a → p a) :
    (parsed read).Yields size p := by
  intro room t a _ hread
  obtain ⟨s, -, hs⟩ := Option.bind_eq_some_iff.1 hread
  cases hok : read s with
  | ok b =>
    rw [hok] at hs
    cases hs
    exact h s a hok
  | error e =>
    rw [hok] at hs
    cases hs

theorem Yields.nullable (h : d.Yields size p) :
    (nullable d).Yields size fun o => ∀ a, o = some a → p a := by
  intro room t o ht ho a heq
  subst heq
  cases t with
  | null => cases ho
  | _ =>
    obtain ⟨b, hb, heq⟩ := Option.map_eq_some_iff.1 ho
    cases heq
    exact h ht hb

/-! ### Lists -/

theorem length_of_mapM_eq_some {g : β → Option α} {bs : List β} {as : List α}
    (h : bs.mapM g = some as) : as.length = bs.length ∧ ∀ a ∈ as, ∃ b ∈ bs, g b = some a := by
  induction bs generalizing as with
  | nil =>
    rw [List.mapM_nil] at h
    cases h
    exact ⟨rfl, nofun⟩
  | cons b bs ih =>
    rw [List.mapM_cons] at h
    obtain ⟨a, ha, h⟩ := Option.bind_eq_some_iff.1 h
    obtain ⟨rest, hrest, h⟩ := Option.bind_eq_some_iff.1 h
    cases h
    obtain ⟨hlength, hall⟩ := ih hrest
    refine ⟨congrArg Nat.succ hlength, List.forall_mem_cons.2 ⟨⟨b, List.mem_cons_self, ha⟩, ?_⟩⟩
    intro a' ha'
    obtain ⟨b', hb', h'⟩ := hall a' ha'
    exact ⟨b', List.mem_cons_of_mem _ hb', h'⟩

theorem Yields.list (h : d.Yields size p) :
    (list d).Yields size fun as => as.length ≤ size ∧ ∀ a ∈ as, p a := by
  intro room t as ht has
  unfold Decoder.list at has
  split at has
  next room ts =>
    obtain ⟨hlength, hall⟩ := length_of_mapM_eq_some has
    refine ⟨hlength.trans_le ht.1, ?_⟩
    intro a ha
    obtain ⟨t, hmem, hfound⟩ := hall a ha
    exact h ((soundElements_iff ts).1 ht.2 t hmem) hfound
  next => cases has

/-! ### Records -/

/-- What was found for the fields is sound. -/
def Fields.Sound (size : Nat) (fs : Fields) : Prop := ∀ m ∈ fs.found, m.2.Sound size

theorem sound_knownMembers {names : List String} {ms : List (Option String × Tree)}
    {found : List (String × Tree)} (hms : SoundMembers size ms)
    (h : knownMembers names ms = some found) : ∀ m ∈ found, m.2.Sound size := by
  induction ms generalizing found with
  | nil =>
    cases h
    nofun
  | cons m ms ih =>
    obtain ⟨key, t⟩ := m
    cases key with
    | none => cases h
    | some key =>
      obtain ⟨rest, hrest, h⟩ := Option.bind_eq_some_iff.1 h
      split at h
      · split at h
        · cases h
        · cases h
          exact List.forall_mem_cons.2 ⟨hms.1, ih hms.2 hrest⟩
      · cases h
        exact ih hms.2 hrest

theorem sound_fields {names : List String} {room : Nat} {t : Tree} {fs : Fields}
    (ht : t.Sound size) (h : fields names room t = some fs) : fs.Sound size := by
  unfold fields at h
  split at h
  · obtain ⟨found, hfound, rfl⟩ := Option.map_eq_some_iff.1 h
    exact sound_knownMembers ht hfound
  · split at h
    · cases h
      intro m hm
      exact (soundElements_iff _).1 ht.2 m.2 (List.of_mem_zip hm).2
    · cases h
  · cases h

/-- What is read off sound fields is what a record yields. -/
theorem yields_record {names : List String} {read : Fields → Option α}
    (h : ∀ fs a, fs.Sound size → read fs = some a → p a) : (record names read).Yields size p := by
  intro room t a ht ha
  obtain ⟨fs, hfs, hread⟩ := Option.bind_eq_some_iff.1 ha
  exact h fs a (sound_fields ht hfs) hread

namespace Fields

variable {fs : Fields} {name : String} {a : α}

theorem Sound.required (hfs : fs.Sound size) (hd : d.Yields size p)
    (h : fs.required name d = some a) : p a := by
  obtain ⟨t, ht, ha⟩ := Option.bind_eq_some_iff.1 h
  exact hd (hfs _ (Keyed.mem_of_get? ht)) ha

theorem Sound.withDefault (hfs : fs.Sound size) {default : α} (hdefault : p default)
    (hd : d.Yields size p) (h : fs.withDefault name default d = some a) : p a := by
  unfold Fields.withDefault at h
  split at h
  · cases h
    exact hdefault
  next t ht => exact hd (hfs _ (Keyed.mem_of_get? ht)) h

theorem Sound.optional (hfs : fs.Sound size) (hd : d.Yields size p) {o : Option α}
    (h : fs.optional name d = some o) : ∀ a, o = some a → p a := by
  refine hfs.withDefault ?_ hd.nullable h
  intro a habsurd
  cases habsurd

end Fields

end Decoder

end ShopSync.Json
