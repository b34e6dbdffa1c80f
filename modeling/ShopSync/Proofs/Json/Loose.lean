import ShopSync.Json.Loose
import ShopSync.Proofs.Json.Record
import ShopSync.Proofs.Number.Grammar

/-!
Reading objects whose fields cannot be relied on.

A record is read from every text whose value is an object, as long as none of its own keys is
repeated: members with other keys may come as often as they like, and of each the untyped reader
takes the last one (`exists_values_of_parse?`).  What a field holds is looked at by its shape, and a
field that is missing or does not have the shape is as good as not there.  So such a field governs
one part of what is read of the object, and no other part (`LooseField.Governs`).
-/

namespace ShopSync.Json

open ShopSync.Number (SpellsInteger int64? int64Limit)

/-! ### Records of objects that repeat keys -/

/-- The keys of the object that a text spells, as often as they come. -/
def topKeys (text : String) : List (Option String) :=
  match Tree.parse? text with
  | some (.object members) => members.map Prod.fst
  | _ => []

section Records

variable {names : List String} {room : Nat} {members : List (Option String × Tree)}
variable {done values : List (String × Value)}

/-- Where no name is repeated, the members with these names are found, and their values are those of
the object. -/
theorem exists_knownMembers (hvalues : memberValues? room done members = some values)
    (honce : ∀ name ∈ names, (members.map Prod.fst).count (some name) ≤ 1) :
    ∃ found, Decoder.knownMembers names members = some found ∧
      (∀ m ∈ found, some m.1 ∈ members.map Prod.fst ∧ (m.2.value? room).isSome) ∧
      ∀ name ∈ names, Keyed.get? name values =
        ((Keyed.get? name found).bind (Tree.value? room)).or (Keyed.get? name done) := by
  induction members generalizing done with
  | nil =>
    obtain rfl := Option.some.inj hvalues
    exact ⟨[], rfl, by simp, fun name _ => rfl⟩
  | cons m members ih =>
    obtain ⟨key, t⟩ := m
    unfold memberValues? at hvalues
    split at hvalues
    case h_2 => cases hvalues
    case h_1 _ _ key v hv =>
      have honce' (name : String) (hname : name ∈ names) :
          (members.map Prod.fst).count (some name) ≤ 1 :=
        (List.count_le_count_cons).trans (honce name hname)
      obtain ⟨found, hfound, hmem, hget⟩ := ih hvalues honce'
      by_cases hname : names.contains key = true
      · -- the name does not come again, so it is found here and only here
        have hnot : some key ∉ members.map Prod.fst := by
          have hcount := honce key (List.contains_iff_mem.1 hname)
          rw [List.map_cons, List.count_cons_self] at hcount
          exact List.count_eq_zero.1 (by omega)
        have hnew : Keyed.get? key found = none := by
          refine Keyed.get?_eq_none_of_notMem fun hkey => ?_
          obtain ⟨m, hm, rfl⟩ := List.mem_map.1 hkey
          exact hnot (hmem m hm).1
        refine ⟨(key, t) :: found, ?_, List.forall_mem_cons.2 ⟨⟨List.mem_cons_self, ?_⟩, fun m hm =>
          ⟨List.mem_cons_of_mem _ (hmem m hm).1, (hmem m hm).2⟩⟩, fun name hnames => ?_⟩
        · rw [Decoder.knownMembers, hfound, Option.bind_eq_bind, Option.bind_some, if_pos hname,
            hnew]
          rfl
        · rw [hv, Option.isSome_some]
        · rw [hget name hnames, Keyed.get?_put, Keyed.get?]
          by_cases hkey : key = name
          · subst hkey
            rw [hnew, if_pos rfl, if_pos rfl, Option.bind_some, hv]
            rfl
          · rw [if_neg hkey, if_neg hkey]
      · refine ⟨found, ?_, fun m hm => ⟨List.mem_cons_of_mem _ (hmem m hm).1, (hmem m hm).2⟩,
          fun name hnames => ?_⟩
        · rw [Decoder.knownMembers, hfound, Option.bind_eq_bind, Option.bind_some, if_neg hname]
          rfl
        · have hne : key ≠ name := by
            rintro rfl
            exact hname (List.contains_iff_mem.2 hnames)
          rw [hget name hnames, Keyed.get?_put, if_neg hne]

/-- A record is read from a text whose value is an object and that repeats none of its keys; each of
its fields has the value that the object has for it. -/
theorem exists_values_of_parse? {text : String} {ms : List (String × Value)}
    (hvalue : Value.parse? text = some (.object ms))
    (honce : ∀ name ∈ names, (topKeys text).count (some name) ≤ 1) :
    ∃ vs, (∀ name ∈ names, Keyed.get? name vs = Keyed.get? name ms) ∧
      ∀ {α : Type} (read : List (String × Value) → Option α),
        Decoder.decode? (.record names fun fs => fs.values.bind read) text = read vs := by
  obtain ⟨t, ht, hvalue⟩ := Option.bind_eq_some_iff.1 hvalue
  obtain ⟨members, rfl, hvalues⟩ : ∃ members, t = .object members ∧
      memberValues? (depthLimit - 1) [] members = some ms := by
    cases t with
    | object members =>
      obtain ⟨values, hvalues, heq⟩ := Option.map_eq_some_iff.1 hvalue
      cases heq
      exact ⟨members, rfl, hvalues⟩
    | number n => cases n <;> cases hvalue
    | string s => cases s <;> cases hvalue
    | array ts =>
      obtain ⟨vs, -, heq⟩ := Option.map_eq_some_iff.1 hvalue
      cases heq
    | null => cases hvalue
    | bool b => cases hvalue
  rw [topKeys, ht] at honce
  obtain ⟨found, hfound, hmem, hget⟩ := exists_knownMembers hvalues honce
  obtain ⟨vs, hvs, hgetvs⟩ := Decoder.Fields.exists_mapM_value fun m hm => (hmem m hm).2
  refine ⟨vs, fun name hname => ?_, fun read => ?_⟩
  · rw [hgetvs, hget name hname, Keyed.get?, Option.or_none]
  · have hfields : Decoder.fields names depthLimit (.object members) =
        some { room := depthLimit - 1, found } :=
      congrArg (Option.map _) hfound
    rw [Decoder.decode?, ht, Option.bind_some, Decoder.record, hfields, Option.bind_some,
      Decoder.Fields.values, hvs, Option.bind_some]

end Records

/-! ### Shapes -/

namespace Loose

/-- What a field is expected to be. -/
inductive Shape where
  | text
  | identifier
  | whole
  | object
  | array

/-- The value has the shape: texts may be numbers, identifiers may be numbers or texts that are not
blank, and whole numbers may be numbers or texts that spell one of 64 bits. -/
inductive Shape.Takes : Shape → Value → Prop
  | text (s : String) : Takes .text (.string s)
  | numeral (n : Number) : Takes .text (.number n)
  | identifier {s : String} (hblank : Text.isBlankText s = false) : Takes .identifier (.string s)
  | numbered (n : Number) : Takes .identifier (.number n)
  | whole (n : Number) : Takes .whole (.number n)
  | spelled {s : String} {n : Int} (hspells : SpellsInteger (Text.trim s).toList n)
      (hword : -int64Limit ≤ n ∧ n < int64Limit) : Takes .whole (.string s)
  | object (ms : Members) : Takes .object (.object ms)
  | array (vs : List Value) : Takes .array (.array vs)

/-- The field is missing or does not have the shape. -/
def Lacks (shape : Shape) (ms : Members) (key : String) : Prop :=
  ∀ v, Keyed.get? key ms = some v → ¬shape.Takes v

/-- The objects have the same fields but for one. -/
def SameBut (key : String) (ms ms' : Members) : Prop :=
  ∀ other, other ≠ key → Keyed.get? other ms = Keyed.get? other ms'

/-- What stands in the array in a field; nothing when there is no array. -/
def elementsIn (ms : Members) (key : String) : List Value :=
  match Keyed.get? key ms with
  | some (.array vs) => vs
  | _ => []

section Shapes

variable {v : Value} {ms ms' : Members} {key other : String} {shape : Shape}

theorem textOf_eq_none_iff : textOf v = none ↔ ¬Shape.text.Takes v := by
  constructor
  · intro h htakes
    cases htakes <;> cases h
  · intro h
    cases v with
    | string s => exact absurd (.text s) h
    | number n => exact absurd (.numeral n) h
    | _ => rfl

theorem integerOf_number_isSome (n : Number) : (integerOf (.number n)).isSome = true := by
  cases n with
  | integer n =>
    rw [integerOf]
    split <;> rfl
  | real x => rfl

theorem integerOf_eq_none_iff : integerOf v = none ↔ ¬Shape.whole.Takes v := by
  have hnumber (n : Number) : integerOf (.number n) ≠ none :=
    Option.isSome_iff_ne_none.1 (integerOf_number_isSome n)
  constructor
  · intro h htakes
    cases htakes with
    | whole n => exact hnumber n h
    | spelled hspells hword =>
      rw [integerOf, Number.int64?_eq_some_iff.2 ⟨hspells, hword⟩] at h
      cases h
  · intro h
    cases v with
    | number n => exact absurd (.whole n) h
    | string s =>
      refine Option.eq_none_iff_forall_ne_some.2 fun n hn => h ?_
      obtain ⟨hspells, hword⟩ := Number.int64?_eq_some_iff.1 hn
      exact .spelled hspells hword
    | _ => rfl

theorem identifierOf_eq_none_iff : identifierOf v = none ↔ ¬Shape.identifier.Takes v := by
  have hnumber (n : Number) : identifierOf (.number n) ≠ none := by
    rw [identifierOf, ne_eq, Option.map_eq_none_iff]
    exact Option.isSome_iff_ne_none.1 (integerOf_number_isSome n)
  constructor
  · intro h htakes
    cases htakes with
    | identifier hblank =>
      rw [identifierOf, hblank] at h
      cases h
    | numbered n => exact hnumber n h
  · intro h
    cases v with
    | number n => exact absurd (.numbered n) h
    | string s =>
      rw [identifierOf]
      split
      next => rfl
      next hblank => exact absurd (.identifier (Bool.eq_false_iff.2 hblank)) h
    | _ => rfl

theorem objectOf_eq_none_iff : objectOf v = none ↔ ¬Shape.object.Takes v := by
  constructor
  · intro h htakes
    cases htakes
    cases h
  · intro h
    cases v with
    | object ms => exact absurd (.object ms) h
    | _ => rfl

theorem Lacks.elementsIn (h : Lacks .array ms key) : elementsIn ms key = [] := by
  unfold Loose.elementsIn
  split
  next vs hget => exact absurd (.array vs) (h _ hget)
  next => rfl

/-! ### Fields that lack their shape -/

theorem Lacks.bind_eq_none {α : Type} {look : Value → Option α}
    (hlook : ∀ {v}, look v = none ↔ ¬shape.Takes v) (h : Lacks shape ms key) :
    (Keyed.get? key ms).bind look = none :=
  Option.bind_eq_none_iff.2 fun v hget => hlook.2 (h v hget)

theorem Lacks.text (h : Lacks .text ms key) : text ms key = none :=
  h.bind_eq_none textOf_eq_none_iff

theorem Lacks.integer (h : Lacks .whole ms key) : integer ms key = none :=
  h.bind_eq_none integerOf_eq_none_iff

theorem Lacks.identifier (h : Lacks .identifier ms key) : identifier ms key = none :=
  h.bind_eq_none identifierOf_eq_none_iff

theorem Lacks.object (h : Lacks .object ms key) : object ms key = none :=
  h.bind_eq_none objectOf_eq_none_iff

theorem objects_eq (ms : Members) (key : String) :
    objects ms key = (elementsIn ms key).filterMap objectOf := by
  rw [objects, elementsIn]
  cases Keyed.get? key ms with
  | none => rfl
  | some v => cases v <;> rfl

theorem Lacks.objects (h : Lacks .array ms key) : objects ms key = [] := by
  rw [objects_eq, h.elementsIn]
  rfl

theorem Lacks.texts (h : Lacks .array ms key) : texts ms key = [] := by
  rw [Loose.texts]
  cases hget : Keyed.get? key ms with
  | none => rfl
  | some v =>
    cases v with
    | array vs => exact absurd (.array vs) (h _ hget)
    | _ => rfl

/-! ### Fields that are the same -/

theorem SameBut.text (h : SameBut key ms ms') (hne : other ≠ key) :
    text ms other = text ms' other := by
  rw [Loose.text, h other hne, Loose.text]

theorem SameBut.integer (h : SameBut key ms ms') (hne : other ≠ key) :
    integer ms other = integer ms' other := by
  rw [Loose.integer, h other hne, Loose.integer]

theorem SameBut.identifier (h : SameBut key ms ms') (hne : other ≠ key) :
    identifier ms other = identifier ms' other := by
  rw [Loose.identifier, h other hne, Loose.identifier]

theorem SameBut.object (h : SameBut key ms ms') (hne : other ≠ key) :
    object ms other = object ms' other := by
  rw [Loose.object, h other hne, Loose.object]

theorem SameBut.objects (h : SameBut key ms ms') (hne : other ≠ key) :
    objects ms other = objects ms' other := by
  rw [Loose.objects, h other hne, Loose.objects]

theorem SameBut.texts (h : SameBut key ms ms') (hne : other ≠ key) :
    texts ms other = texts ms' other := by
  rw [Loose.texts, h other hne, Loose.texts]

end Shapes

/-- A field of what is read of an object: where it stands, what it is expected to be, and what is
read of the object when it is not that. -/
structure LooseField (ρ : Type) where
  key : String
  shape : Shape
  cleared : ρ → ρ

/-- Where the field is missing or does not have its shape, its own part is cleared, and everything
else is read as if the field were right. -/
def LooseField.Governs {ρ : Type} (field : LooseField ρ) (read : Members → ρ) : Prop :=
  ∀ ms ms', SameBut field.key ms ms' → Lacks field.shape ms field.key →
    read ms = field.cleared (read ms')

/-! ### Identifiers of either kind -/

section Identifiers

variable {n : Int}

theorem isBlank_of_mem_integerText {c : Char} (h : c ∈ Number.integerText n) :
    Text.isBlank c = false := by
  have hdigit {m : Nat} (hc : c ∈ Number.digits m) : Text.isBlank c = false := by
    have hrange := Number.isDigit_of_mem_digits hc
    by_contra hblank
    have hbound := toNat_of_isBlank (Bool.eq_true_of_not_eq_false hblank)
    simp only [Number.isDigit, Bool.and_eq_true, decide_eq_true_eq, Char.le_def,
      UInt32.le_iff_toNat_le] at hrange
    change 0x30 ≤ c.toNat ∧ c.toNat ≤ 0x39 at hrange
    omega
  cases n with
  | ofNat m => exact hdigit h
  | negSucc m =>
    rcases List.mem_cons.1 h with rfl | h
    · decide
    · exact hdigit h

theorem trim_integerText (n : Int) :
    Text.trim (String.ofList (Number.integerText n)) =
      String.ofList (Number.integerText n) := by
  have hkeep (cs : List Char) (h : ∀ c ∈ cs, Text.isBlank c = false) :
      cs.dropWhile Text.isBlank = cs :=
    Text.dropWhile_eq_self fun c hc => h c (List.mem_of_head? hc)
  have hnone := fun c (hc : c ∈ Number.integerText n) => isBlank_of_mem_integerText hc
  rw [Text.trim, String.toList_ofList, Text.strip, Text.stripEnd, hkeep _ hnone,
    hkeep _ fun c hc => hnone c (List.mem_reverse.1 hc), List.reverse_reverse]

/-- A whole number of 64 bits is the same identifier as a number and as the text of it. -/
theorem identifierOf_integerText (hword : -int64Limit ≤ n ∧ n < int64Limit) :
    identifierOf (.string (String.ofList (Number.integerText n))) =
      identifierOf (.ofInt n) := by
  obtain ⟨c, hc⟩ : ∃ c, c ∈ Number.integerText n := by
    refine List.exists_mem_of_ne_nil _ ?_
    cases n with
    | ofNat m => exact Number.digits_ne_nil m
    | negSucc m => exact List.cons_ne_nil _ _
  have hblank : Text.isBlankText (String.ofList (Number.integerText n)) = false := by
    rw [Text.isBlankText, String.toList_ofList, List.all_eq_false]
    exact ⟨c, hc, by simp [isBlank_of_mem_integerText hc]⟩
  rw [identifierOf, hblank, trim_integerText, Value.ofInt, identifierOf, integerOf,
    if_pos hword.2]
  rfl

end Identifiers

end Loose

end ShopSync.Json
