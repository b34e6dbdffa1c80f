import Mathlib.Tactic
import ShopSync.Proofs.Json.Literal
import ShopSync.Proofs.Json.RoundTrip

/-!
What texts can spell.

A text of some length spells a tree whose numbers are ones that numerals can stand for, and whose
arrays have no more elements than the text has characters.  What a decoder finds in such a tree is
bounded accordingly; `Decoder.Yields` says so of a decoder, and holds of records and lists part by
part.
-/

namespace ShopSync.Json

/-! ### Tokens -/

/-- The number of a token, if it has one, is one that a numeral can stand for. -/
def Token.IsSound : Token → Prop
  | .number (some n) => n.IsSound
  | _ => True

theorem isSound_wordToken? {cs : List Char} {t : Token} (h : wordToken? cs = some t) :
    t.IsSound := by
  unfold wordToken? at h
  split at h
  · cases h
    trivial
  · split at h
    · cases h
      trivial
    · split at h <;> cases h
      trivial

theorem isSound_punctuation? {c : Char} {t : Token} (h : punctuation? c = some t) :
    t.IsSound := by
  unfold punctuation? at h
  split at h <;> cases h <;> trivial

theorem isSound_token? {c : Char} {cs rest : List Char} {t : Token}
    (h : token? c cs = some (t, rest)) : t.IsSound := by
  unfold token? at h
  split at h
  · obtain ⟨_, -, heq⟩ := Option.map_eq_some_iff.1 h
    cases heq
    trivial
  · split at h
    · obtain ⟨literal, -, heq⟩ := Option.map_eq_some_iff.1 h
      cases heq
      cases hn : literal.number? with
      | none => trivial
      | some n => exact Literal.isSound_of_number? hn
    · split at h
      · obtain ⟨token, htoken, heq⟩ := Option.map_eq_some_iff.1 h
        cases heq
        exact isSound_wordToken? htoken
      · obtain ⟨token, htoken, heq⟩ := Option.map_eq_some_iff.1 h
        cases heq
        exact isSound_punctuation? htoken

/-- Scanning gives sound tokens, no more than there are characters. -/
theorem isSound_scanFrom {done tokens : List Token} {cs : List Char}
    (hdone : ∀ t ∈ done, t.IsSound) (h : scanFrom done cs = some tokens) :
    (∀ t ∈ tokens, t.IsSound) ∧ tokens.length ≤ done.length + cs.length := by
  fun_induction scanFrom done cs with
  | case1 done =>
    cases h
    refine ⟨fun t ht => hdone t (List.mem_reverse.1 ht), ?_⟩
    rw [List.length_reverse]
    exact Nat.le_add_right _ _
  | case2 done c rest hgap ih =>
    obtain ⟨hsound, hlength⟩ := ih hdone h
    refine ⟨hsound, ?_⟩
    rw [List.length_cons]
    omega
  | case3 done c rest hgap token rest' htoken ih =>
    obtain ⟨hsound, hlength⟩ := ih
      (List.forall_mem_cons.2 ⟨isSound_token? htoken, hdone⟩) h
    refine ⟨hsound, ?_⟩
    have hrest := length_token? htoken
    rw [List.length_cons] at hlength ⊢
    omega
  | case4 => cases h

/-! ### Trees -/

mutual
/-- Every number of the tree is one that a numeral can stand for, and no array has more elements
than a bound. -/
def Tree.Sound (size : Nat) : Tree → Prop
  | .number (some n) => n.IsSound
  | .array ts => ts.length ≤ size ∧ SoundElements size ts
  | .object ms => SoundMembers size ms
  | _ => True

/-- The elements are sound each. -/
def SoundElements (size : Nat) : List Tree → Prop
  | [] => True
  | t :: ts => t.Sound size ∧ SoundElements size ts

/-- The members are sound each. -/
def SoundMembers (size : Nat) : List (Option String × Tree) → Prop
  | [] => True
  | (_, t) :: ms => t.Sound size ∧ SoundMembers size ms
end

theorem soundElements_iff {size : Nat} (ts : List Tree) :
    SoundElements size ts ↔ ∀ t ∈ ts, t.Sound size := by
  induction ts with
  | nil => simp [SoundElements]
  | cons t ts ih => simp [SoundElements, ih]

theorem soundMembers_iff {size : Nat} (ms : List (Option String × Tree)) :
    SoundMembers size ms ↔ ∀ m ∈ ms, m.2.Sound size := by
  induction ms with
  | nil => simp [SoundMembers]
  | cons m ms ih =>
    obtain ⟨key, t⟩ := m
    simp [SoundMembers, ih]

/-! ### The machine -/

/-- What an open array or object holds is sound, and an array holds at most `count` elements. -/
def Frame.Sound (size count : Nat) : Frame → Prop
  | .elements done => done.length ≤ count ∧ ∀ t ∈ done, t.Sound size
  | .members done => ∀ m ∈ done, m.2.Sound size
  | .member done _ => ∀ m ∈ done, m.2.Sound size

/-- The value that is complete, if one is, is sound. -/
def Expect.Sound (size : Nat) : Expect → Prop
  | .after t => t.Sound size
  | _ => True

/-- After `count` tokens everything that was read is sound. -/
structure Machine.Sound (size count : Nat) (machine : Machine) : Prop where
  expect : machine.expect.Sound size
  stack : ∀ frame ∈ machine.stack, frame.Sound size count

section Machine

variable {size count : Nat} {stack : List Frame} {token : Token} {m m' : Machine} {tree : Tree}

theorem Frame.Sound.succ {frame : Frame} (h : frame.Sound size count) :
    frame.Sound size (count + 1) := by
  cases frame with
  | elements done => exact ⟨Nat.le_succ_of_le h.1, h.2⟩
  | members done => exact h
  | member done key => exact h

theorem forall_sound_succ (h : ∀ frame ∈ stack, frame.Sound size count) :
    ∀ frame ∈ stack, frame.Sound size (count + 1) :=
  fun frame hframe => (h frame hframe).succ

theorem Machine.sound_onValue (hstack : ∀ frame ∈ stack, frame.Sound size count)
    (htoken : token.IsSound) (h : onValue stack token = some m) : m.Sound size (count + 1) := by
  have hnext := forall_sound_succ hstack
  unfold onValue at h
  split at h
  case h_1 =>
    cases h
    exact ⟨trivial, hnext⟩
  case h_2 =>
    cases h
    exact ⟨trivial, hnext⟩
  case h_3 n =>
    cases h
    refine ⟨?_, hnext⟩
    cases n with
    | none => trivial
    | some n => exact htoken
  case h_4 =>
    cases h
    exact ⟨trivial, hnext⟩
  case h_5 =>
    cases h
    exact ⟨trivial, List.forall_mem_cons.2 ⟨⟨Nat.zero_le _, nofun⟩, hnext⟩⟩
  case h_6 =>
    cases h
    exact ⟨trivial, List.forall_mem_cons.2 ⟨nofun, hnext⟩⟩
  case h_7 => cases h

theorem Machine.sound_onKey (hstack : ∀ frame ∈ stack, frame.Sound size count)
    (h : onKey stack token = some m) : m.Sound size (count + 1) := by
  have hnext := forall_sound_succ hstack
  unfold onKey at h
  split at h
  · split at h
    · cases h
      obtain ⟨hdone, hrest⟩ := List.forall_mem_cons.1 hnext
      exact ⟨trivial, List.forall_mem_cons.2 ⟨hdone, hrest⟩⟩
    · cases h
  · cases h

theorem Machine.sound_onAfter (hcount : count < size) (htree : tree.Sound size)
    (hstack : ∀ frame ∈ stack, frame.Sound size count) (h : onAfter tree stack token = some m) :
    m.Sound size (count + 1) := by
  unfold onAfter at h
  split at h
  case h_1 done stack =>
    cases h
    obtain ⟨⟨hlength, hdone⟩, hrest⟩ := List.forall_mem_cons.1 hstack
    refine ⟨trivial, List.forall_mem_cons.2 ⟨⟨?_, ?_⟩, forall_sound_succ hrest⟩⟩
    · exact Nat.succ_le_succ hlength
    · exact List.forall_mem_cons.2 ⟨htree, hdone⟩
  case h_2 done stack =>
    cases h
    obtain ⟨⟨hlength, hdone⟩, hrest⟩ := List.forall_mem_cons.1 hstack
    refine ⟨⟨?_, (soundElements_iff _).2 fun t ht => ?_⟩, forall_sound_succ hrest⟩
    · rw [List.length_reverse, List.length_cons]
      omega
    · exact List.forall_mem_cons.2 ⟨htree, hdone⟩ t (List.mem_reverse.1 ht)
  case h_3 done key stack =>
    cases h
    obtain ⟨hdone, hrest⟩ := List.forall_mem_cons.1 hstack
    refine ⟨trivial, List.forall_mem_cons.2 ⟨?_, forall_sound_succ hrest⟩⟩
    exact List.forall_mem_cons.2 ⟨htree, hdone⟩
  case h_4 done key stack =>
    cases h
    obtain ⟨hdone, hrest⟩ := List.forall_mem_cons.1 hstack
    refine ⟨(soundMembers_iff _).2 fun m hm => ?_, forall_sound_succ hrest⟩
    have hall : ∀ m ∈ (key, tree) :: done, m.2.Sound size :=
      List.forall_mem_cons.2 ⟨htree, hdone⟩
    exact hall m (List.mem_reverse.1 hm)
  case h_5 => cases h

theorem Machine.Sound.step (hm : m.Sound size count) (hcount : count < size)
    (htoken : token.IsSound) (h : m.step token = some m') : m'.Sound size (count + 1) := by
  obtain ⟨expect, stack⟩ := m
  obtain ⟨hexpect, hstack⟩ := hm
  cases expect with
  | value => exact sound_onValue hstack htoken h
  | firstElement =>
    unfold step at h
    dsimp only at h
    split at h
    · cases h
      obtain ⟨-, hrest⟩ := List.forall_mem_cons.1 hstack
      exact ⟨⟨Nat.zero_le _, trivial⟩, forall_sound_succ hrest⟩
    · exact sound_onValue hstack htoken h
  | key => exact sound_onKey hstack h
  | firstKey =>
    unfold step at h
    dsimp only at h
    split at h
    · cases h
      obtain ⟨-, hrest⟩ := List.forall_mem_cons.1 hstack
      exact ⟨trivial, forall_sound_succ hrest⟩
    · exact sound_onKey hstack h
  | colon =>
    unfold step at h
    dsimp only at h
    split at h <;> cases h
    exact ⟨trivial, forall_sound_succ hstack⟩
  | after tree => exact sound_onAfter hcount hexpect hstack h

theorem Machine.Sound.run {tokens : List Token} (hm : m.Sound size count)
    (hcount : count + tokens.length ≤ size) (htokens : ∀ t ∈ tokens, t.IsSound)
    (h : m.run tokens = some m') : m'.Sound size (count + tokens.length) := by
  induction tokens generalizing m count with
  | nil =>
    cases h
    exact hm
  | cons token tokens ih =>
    rw [List.length_cons] at hcount ⊢
    obtain ⟨htoken, htokens⟩ := List.forall_mem_cons.1 htokens
    unfold run at h
    split at h
    next next hstep =>
      have hall := ih (hm.step (by omega) htoken hstep) (by omega) htokens h
      rwa [Nat.add_right_comm] at hall
    next => cases h

end Machine

/-- The tree that a text spells is sound for the length of the text. -/
theorem Tree.sound_of_parse? {text : String} {t : Tree} (h : parse? text = some t) :
    t.Sound text.length := by
  obtain ⟨tokens, hscan, htokens⟩ := Option.bind_eq_some_iff.1 h
  obtain ⟨machine, hrun, hresult⟩ := Option.bind_eq_some_iff.1 htokens
  obtain ⟨hsound, hlength⟩ := isSound_scanFrom (List.forall_mem_nil _) hscan
  rw [List.length_nil, Nat.zero_add, String.length_toList] at hlength
  have hstart : Machine.start.Sound text.length 0 := ⟨trivial, nofun⟩
  have hend := hstart.run (by rwa [Nat.zero_add]) hsound hrun
  unfold Machine.result? at hresult
  split at hresult
  next hexpect _ =>
    cases hresult
    have := hend.expect
    rwa [hexpect] at this
  next => cases hresult

end ShopSync.Json
