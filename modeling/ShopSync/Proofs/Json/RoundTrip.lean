import Mathlib.Tactic
import ShopSync.Json.Decoder
import ShopSync.Proofs.Json.Scan
import ShopSync.Proofs.Keyed

/-!
Written values read back.

The tokens of a tree spell that tree, so the text of a value, in any plain layout, is read as what
it spells: as the tree of the value when every number reads back.  The value of that tree is the
value again when its keys are distinct and it is nested no deeper than the room that is left.
-/

namespace ShopSync.Json

/-! ### Tokens spell trees -/

theorem Machine.run_cons {m : Machine} {token : Token} (m' : Machine) (tokens : List Token)
    (h : m.step token = some m') : m.run (token :: tokens) = m'.run tokens := by
  rw [Machine.run, h]

/-- Where an array was just opened, a value that comes next is its first element. -/
theorem Machine.run_firstElement (stack : List Frame) (t : Tree) (tokens : List Token) :
    Machine.run { expect := .firstElement, stack } (t.tokens ++ tokens) =
      Machine.run { expect := .value, stack } (t.tokens ++ tokens) := by
  cases t with
  | array ts => cases ts <;> rfl
  | object ms => cases ms <;> rfl
  | _ => rfl

mutual
/-- The tokens of a tree are read as that tree. -/
theorem Machine.run_tokens (stack : List Frame) (t : Tree) (tokens : List Token) :
    Machine.run { expect := .value, stack } (t.tokens ++ tokens) =
      Machine.run { expect := .after t, stack } tokens := by
  cases t with
  | array ts =>
    cases ts with
    | nil => rfl
    | cons t ts =>
      simp only [Tree.tokens, List.cons_append, List.append_assoc, List.nil_append]
      rw [Machine.run_cons ⟨.firstElement, .elements [] :: stack⟩ _ rfl,
        Machine.run_firstElement, Machine.run_tokens, Machine.run_elementTokens]
      simp
  | object ms =>
    cases ms with
    | nil => rfl
    | cons m ms =>
      obtain ⟨key, t⟩ := m
      simp only [Tree.tokens, List.cons_append, List.append_assoc, List.nil_append]
      rw [Machine.run_cons ⟨.firstKey, .members [] :: stack⟩ _ rfl,
        Machine.run_cons ⟨.colon, .member [] key :: stack⟩ _ rfl,
        Machine.run_cons ⟨.value, .member [] key :: stack⟩ _ rfl,
        Machine.run_tokens, Machine.run_memberTokens]
      simp
  | _ => rfl

theorem Machine.run_elementTokens (stack : List Frame) (done : List Tree) (t : Tree)
    (ts : List Tree) (tokens : List Token) :
    Machine.run { expect := .after t, stack := .elements done :: stack }
        (elementTokens ts ++ .closeArray :: tokens) =
      Machine.run { expect := .after (.array (done.reverse ++ t :: ts)), stack } tokens := by
  cases ts with
  | nil =>
    rw [elementTokens, List.nil_append, Machine.run_cons _ _ rfl]
    simp
  | cons next ts =>
    simp only [elementTokens, List.cons_append, List.append_assoc]
    rw [Machine.run_cons ⟨.value, .elements (t :: done) :: stack⟩ _ rfl,
      Machine.run_tokens, Machine.run_elementTokens]
    simp

theorem Machine.run_memberTokens (stack : List Frame) (done : List (Option String × Tree))
    (key : Option String) (t : Tree) (ms : List (Option String × Tree)) (tokens : List Token) :
    Machine.run { expect := .after t, stack := .member done key :: stack }
        (memberTokens ms ++ .closeObject :: tokens) =
      Machine.run { expect := .after (.object (done.reverse ++ (key, t) :: ms)), stack }
        tokens := by
  cases ms with
  | nil =>
    rw [memberTokens, List.nil_append, Machine.run_cons _ _ rfl]
    simp
  | cons m ms =>
    obtain ⟨next, v⟩ := m
    simp only [memberTokens, List.cons_append, List.append_assoc]
    rw [Machine.run_cons ⟨.key, .members ((key, t) :: done) :: stack⟩ _ rfl,
      Machine.run_cons ⟨.colon, .member ((key, t) :: done) next :: stack⟩ _ rfl,
      Machine.run_cons ⟨.value, .member ((key, t) :: done) next :: stack⟩ _ rfl,
      Machine.run_tokens, Machine.run_memberTokens]
    simp
end

theorem Tree.ofTokens?_tokens (t : Tree) : Tree.ofTokens? t.tokens = some t := by
  have h := Machine.run_tokens [] t []
  rw [List.append_nil] at h
  rw [Tree.ofTokens?, Machine.start, h]
  rfl

/-- The text of a value, in any plain layout and with any gaps behind it, is read as what it
spells. -/
theorem Tree.parse?_write_append {layout : Layout} (hlayout : layout.IsPlain) (level : Nat)
    {v : Value} (hv : v.HasNumerals) {gaps : List Char} (hgaps : gaps.all isGap = true) :
    Tree.parse? (String.ofList (v.write layout level ++ gaps)) = some v.spelling := by
  rw [Tree.parse?, String.toList_ofList, scan_write hlayout level v hv hgaps, Option.bind_some,
    Tree.ofTokens?_tokens]

theorem Tree.parse?_write_spelling {layout : Layout} (hlayout : layout.IsPlain) (level : Nat)
    {v : Value} (hv : v.HasNumerals) :
    Tree.parse? (String.ofList (v.write layout level)) = some v.spelling := by
  have hnothing : ([] : List Char).all isGap = true := rfl
  have hparse := Tree.parse?_write_append hlayout level hv hnothing
  rwa [List.append_nil] at hparse

/-- The text of a value whose numbers read back is read as the tree of the value. -/
theorem Tree.parse?_write {layout : Layout} (hlayout : layout.IsPlain) (level : Nat) {v : Value}
    (hv : v.Readable) : Tree.parse? (String.ofList (v.write layout level)) = some v.toTree := by
  obtain ⟨hnumerals, hspelling⟩ := Value.Readable.spelling v hv
  rw [Tree.parse?_write_spelling hlayout level hnumerals, hspelling]

theorem Tree.parse?_render {v : Value} (hv : v.Readable) :
    Tree.parse? v.render = some v.toTree :=
  Tree.parse?_write Layout.isPlain_compact 0 hv

/-! ### Trees of values -/

theorem Value.treesOf_eq (vs : List Value) : treesOf vs = vs.map toTree := by
  induction vs with
  | nil => rfl
  | cons v vs ih => rw [treesOf, ih, List.map_cons]

theorem Value.memberTreesOf_eq (ms : List (String × Value)) :
    memberTreesOf ms = ms.map fun m => (some m.1, m.2.toTree) := by
  induction ms with
  | nil => rfl
  | cons m ms ih =>
    obtain ⟨key, v⟩ := m
    rw [memberTreesOf, ih, List.map_cons]

mutual
/-- The keys of every object are distinct, and there are at most `room` levels of nesting. -/
def Value.Fits (room : Nat) : Value → Prop
  | .array vs =>
    match room with
    | 0 => False
    | room + 1 => ElementsFit room vs
  | .object ms =>
    match room with
    | 0 => False
    | room + 1 => (ms.map Prod.fst).Nodup ∧ MembersFit room ms
  | _ => True

/-- The elements fit each. -/
def ElementsFit (room : Nat) : List Value → Prop
  | [] => True
  | v :: vs => v.Fits room ∧ ElementsFit room vs

/-- The members fit each. -/
def MembersFit (room : Nat) : List (String × Value) → Prop
  | [] => True
  | (_, v) :: ms => v.Fits room ∧ MembersFit room ms
end

theorem elementsFit_iff (room : Nat) (vs : List Value) :
    ElementsFit room vs ↔ ∀ v ∈ vs, v.Fits room := by
  induction vs with
  | nil => simp [ElementsFit]
  | cons v vs ih => simp [ElementsFit, ih]

theorem membersFit_iff (room : Nat) (ms : List (String × Value)) :
    MembersFit room ms ↔ ∀ m ∈ ms, m.2.Fits room := by
  induction ms with
  | nil => simp [MembersFit]
  | cons m ms ih =>
    obtain ⟨key, v⟩ := m
    simp [MembersFit, ih]

mutual
theorem Value.value?_toTree (room : Nat) (v : Value) (h : v.Fits room) :
    v.toTree.value? room = some v := by
  cases v with
  | array vs =>
    cases room with
    | zero => exact h.elim
    | succ room =>
      rw [Value.toTree, Tree.value?, elementValues?_treesOf room vs h]
      rfl
  | object ms =>
    cases room with
    | zero => exact h.elim
    | succ room =>
      rw [Value.toTree, Tree.value?,
        memberValues?_memberTreesOf room [] ms h.2 (by simpa using h.1)]
      rfl
  | _ => rfl

theorem elementValues?_treesOf (room : Nat) (vs : List Value) (h : ElementsFit room vs) :
    elementValues? room (Value.treesOf vs) = some vs := by
  cases vs with
  | nil => rfl
  | cons v vs =>
    rw [Value.treesOf, elementValues?, Value.value?_toTree room v h.1]
    simp only [elementValues?_treesOf room vs h.2, Option.map_some]

theorem memberValues?_memberTreesOf (room : Nat) (done ms : List (String × Value))
    (h : MembersFit room ms) (hkeys : ((done ++ ms).map Prod.fst).Nodup) :
    memberValues? room done (Value.memberTreesOf ms) = some (done ++ ms) := by
  cases ms with
  | nil => simp [Value.memberTreesOf, memberValues?]
  | cons m ms =>
    obtain ⟨key, v⟩ := m
    have hput : Keyed.put key v done = done ++ [(key, v)] :=
      Keyed.put_of_notMem (Keyed.notMem_of_nodup hkeys) v
    simp only [Value.memberTreesOf, memberValues?, Value.value?_toTree room v h.1, hput]
    rw [memberValues?_memberTreesOf room _ ms h.2 (by simpa using hkeys)]
    simp
end

/-- A value that is readable and fits is what its text stands for. -/
theorem Value.parse?_render {v : Value} (hv : v.Readable) (hfits : v.Fits depthLimit) :
    Value.parse? v.render = some v := by
  rw [Value.parse?, Tree.parse?_render hv, Option.bind_some, value?_toTree depthLimit v hfits]

end ShopSync.Json
