import Mathlib.Data.List.TakeWhile
import Mathlib.Tactic
import ShopSync.Json.Printer
import ShopSync.Proofs.Json.Numeral
import ShopSync.Proofs.Json.Text

/-!
The tokens of a written value.

`Value.spelling` is the tree that the text of a value spells: a number stands there as what its
numeral stands for.  Scanning a value that was written gives the tokens of that tree, in either
layout and whatever stands behind it, as long as no character behind it could belong to its last
token.  Where every number reads back, the tree is that of the value itself.
-/

namespace ShopSync.Json

open ShopSync.Number (isDigit)

/-! ### What ends a token -/

/-- The characters do not start with one that would go on with a numeral or a word. -/
def EndsToken (cs : List Char) : Prop :=
  ∀ c, cs.head? = some c → isNumeralChar c = false ∧ isWordChar c = false

theorem endsToken_nil : EndsToken [] := by
  intro c h
  cases h

theorem endsToken_cons {c : Char} {cs : List Char}
    (h : isNumeralChar c = false ∧ isWordChar c = false) : EndsToken (c :: cs) := by
  intro d hd
  obtain rfl := Option.some.inj hd
  exact h

theorem endsToken_of_isGap {c : Char} {cs : List Char} (h : isGap c = true) :
    EndsToken (c :: cs) := by
  apply endsToken_cons
  simp only [isGap, Bool.or_eq_true, beq_iff_eq] at h
  rcases h with ((rfl | rfl) | rfl) | rfl <;> decide

theorem endsToken_append {gaps cs : List Char} (hgaps : gaps.all isGap = true)
    (h : EndsToken cs) : EndsToken (gaps ++ cs) := by
  cases gaps with
  | nil => exact h
  | cons c gaps =>
    rw [List.all_cons, Bool.and_eq_true] at hgaps
    exact endsToken_of_isGap hgaps.1

/-! ### Single tokens -/

theorem scanFrom_cons {c : Char} {rest rest' : List Char} {token : Token} (done : List Token)
    (hgap : isGap c = false) (h : token? c rest = some (token, rest')) :
    scanFrom done (c :: rest) = scanFrom (token :: done) rest' := by
  rw [scanFrom, if_neg (by simp [hgap])]
  split
  next t r ht =>
    obtain ⟨rfl, rfl⟩ := Prod.mk.inj (Option.some.inj (ht.symm.trans h))
    rfl
  next hnone => rw [h] at hnone; cases hnone

theorem scanFrom_gaps {gaps : List Char} (done : List Token) (rest : List Char)
    (h : gaps.all isGap = true) : scanFrom done (gaps ++ rest) = scanFrom done rest := by
  induction gaps with
  | nil => rfl
  | cons c gaps ih =>
    rw [List.all_cons, Bool.and_eq_true] at h
    rw [List.cons_append, scanFrom, if_pos h.1]
    exact ih h.2

theorem scanFrom_punctuation {c : Char} {token : Token} (done : List Token) (rest : List Char)
    (h : punctuation? c = some token) :
    scanFrom done (c :: rest) = scanFrom (token :: done) rest := by
  unfold punctuation? at h
  split at h <;> first
    | (cases h; exact scanFrom_cons done (by decide) rfl)
    | cases h

theorem scanFrom_writeText (done : List Token) (s : String) (rest : List Char) :
    scanFrom done (writeText s ++ rest) = scanFrom (.string (some s) :: done) rest := by
  rw [writeText, List.append_assoc, List.cons_append]
  refine scanFrom_cons done (by decide) ?_
  rw [token?, if_pos rfl, List.singleton_append, pieces?_flatMap_escapeChar, Option.map_some]
  simp only [List.reverse_nil, List.nil_append, spelled?_pieces]

theorem scanFrom_number {n : Number} (done : List Token) {rest : List Char} (h : n.HasNumeral)
    (hrest : EndsToken rest) :
    scanFrom done (n.write ++ rest) = scanFrom (.number n.reread? :: done) rest := by
  obtain ⟨literal, hparse⟩ := Option.isSome_iff_exists.1 h
  rw [Number.reread?, hparse, Option.bind_some]
  obtain ⟨hall, c, cs, hcs, hstart⟩ := chars_of_parse? hparse
  rw [hcs] at hparse hall ⊢
  rw [List.all_cons, Bool.and_eq_true] at hall
  obtain ⟨htake, hdrop⟩ := span_append hall.2 fun d hd => (hrest d hd).1
  have hquote : c ≠ '"' := by rintro rfl; revert hstart; decide
  have hgap : isGap c = false := by
    by_contra hc
    have hends : EndsToken [c] := endsToken_of_isGap (by simpa using hc)
    have := (hends c rfl).1
    rw [hall.1] at this
    cases this
  rw [List.cons_append]
  refine scanFrom_cons done hgap ?_
  rw [token?, if_neg hquote, if_pos (by simpa [startsNumeral] using hstart), htake, hdrop, hparse,
    Option.map_some]

theorem scanFrom_word {c : Char} {cs rest : List Char} {token : Token} (done : List Token)
    (hc : isWordChar c = true) (hcs : cs.all isWordChar = true)
    (htoken : wordToken? (c :: cs) = some token) (hrest : EndsToken rest) :
    scanFrom done (c :: cs ++ rest) = scanFrom (token :: done) rest := by
  obtain ⟨htake, hdrop⟩ := span_append hcs fun d hd => (hrest d hd).2
  have hword : 'a' ≤ c ∧ c ≤ 'z' := by simpa [isWordChar] using hc
  have hne (d : Char) (hd : isWordChar d = false) : c ≠ d := by
    rintro rfl
    rw [hc] at hd
    cases hd
  have hgap : isGap c = false := by
    simp [isGap, hne ' ' rfl, hne '\t' rfl, hne '\n' rfl, hne '\r' rfl]
  have hdigit : isDigit c = false := by
    by_contra hd
    have hd' : c ≤ '9' := by
      rw [Bool.not_eq_false] at hd
      simp only [isDigit, Bool.and_eq_true, decide_eq_true_eq] at hd
      exact hd.2
    exact absurd (Char.le_trans hword.1 hd') (by decide)
  rw [List.cons_append]
  refine scanFrom_cons done hgap ?_
  rw [token?, if_neg (hne '"' rfl), if_neg (by simp [hdigit, hne '-' rfl]), if_pos hc, htake,
    hdrop, htoken, Option.map_some]

/-! ### Values -/

mutual
/-- The tokens of a tree. -/
def Tree.tokens : Tree → List Token
  | .null => [.null]
  | .bool b => [.bool b]
  | .number n => [.number n]
  | .string s => [.string s]
  | .array [] => [.openArray, .closeArray]
  | .array (t :: ts) => .openArray :: (t.tokens ++ elementTokens ts ++ [.closeArray])
  | .object [] => [.openObject, .closeObject]
  | .object ((key, t) :: ms) =>
    .openObject :: .string key :: .colon :: (t.tokens ++ memberTokens ms ++ [.closeObject])

/-- The tokens of the elements after the first one. -/
def elementTokens : List Tree → List Token
  | [] => []
  | t :: ts => .comma :: (t.tokens ++ elementTokens ts)

/-- The tokens of the members after the first one. -/
def memberTokens : List (Option String × Tree) → List Token
  | [] => []
  | (key, t) :: ms => .comma :: .string key :: .colon :: (t.tokens ++ memberTokens ms)
end

mutual
/-- The tree that the text of a value spells. -/
def Value.spelling : Value → Tree
  | .null => .null
  | .bool b => .bool b
  | .number n => .number n.reread?
  | .string s => .string (some s)
  | .array vs => .array (spellings vs)
  | .object ms => .object (memberSpellings ms)

/-- The trees that the texts of the elements spell. -/
def spellings : List Value → List Tree
  | [] => []
  | v :: vs => v.spelling :: spellings vs

/-- The members as they are spelled. -/
def memberSpellings : List (String × Value) → List (Option String × Tree)
  | [] => []
  | (key, v) :: ms => (some key, v.spelling) :: memberSpellings ms
end

theorem spellings_eq (vs : List Value) : spellings vs = vs.map Value.spelling := by
  induction vs with
  | nil => rfl
  | cons v vs ih => rw [spellings, ih, List.map_cons]

theorem Value.spelling_ofList (f : α → Value) (as : List α) :
    (Value.ofList f as).spelling = .array (as.map fun a => (f a).spelling) := by
  rw [ofList, spelling, spellings_eq, List.map_map]
  rfl

theorem memberSpellings_eq (ms : List (String × Value)) :
    memberSpellings ms = ms.map fun m => (some m.1, m.2.spelling) := by
  induction ms with
  | nil => rfl
  | cons m ms ih =>
    obtain ⟨key, v⟩ := m
    rw [memberSpellings, ih, List.map_cons]

mutual
/-- Every number of the value is written as a numeral. -/
def Value.HasNumerals : Value → Prop
  | .number n => n.HasNumeral
  | .array vs => ElementsHaveNumerals vs
  | .object ms => MembersHaveNumerals ms
  | _ => True

/-- Every number of the elements is written as a numeral. -/
def ElementsHaveNumerals : List Value → Prop
  | [] => True
  | v :: vs => v.HasNumerals ∧ ElementsHaveNumerals vs

/-- Every number of the members is written as a numeral. -/
def MembersHaveNumerals : List (String × Value) → Prop
  | [] => True
  | (_, v) :: ms => v.HasNumerals ∧ MembersHaveNumerals ms
end

theorem elementsHaveNumerals_iff (vs : List Value) :
    ElementsHaveNumerals vs ↔ ∀ v ∈ vs, v.HasNumerals := by
  induction vs with
  | nil => simp [ElementsHaveNumerals]
  | cons v vs ih => simp [ElementsHaveNumerals, ih]

theorem membersHaveNumerals_iff (ms : List (String × Value)) :
    MembersHaveNumerals ms ↔ ∀ m ∈ ms, m.2.HasNumerals := by
  induction ms with
  | nil => simp [MembersHaveNumerals]
  | cons m ms ih =>
    obtain ⟨key, v⟩ := m
    simp [MembersHaveNumerals, ih]

mutual
/-- Every number of the value reads back. -/
def Value.Readable : Value → Prop
  | .number n => n.ReadsBack
  | .array vs => ReadableElements vs
  | .object ms => ReadableMembers ms
  | _ => True

/-- Every number of the elements reads back. -/
def ReadableElements : List Value → Prop
  | [] => True
  | v :: vs => v.Readable ∧ ReadableElements vs

/-- Every number of the members reads back. -/
def ReadableMembers : List (String × Value) → Prop
  | [] => True
  | (_, v) :: ms => v.Readable ∧ ReadableMembers ms
end

theorem readableElements_iff (vs : List Value) :
    ReadableElements vs ↔ ∀ v ∈ vs, v.Readable := by
  induction vs with
  | nil => simp [ReadableElements]
  | cons v vs ih => simp [ReadableElements, ih]

theorem readableMembers_iff (ms : List (String × Value)) :
    ReadableMembers ms ↔ ∀ m ∈ ms, m.2.Readable := by
  induction ms with
  | nil => simp [ReadableMembers]
  | cons m ms ih =>
    obtain ⟨key, v⟩ := m
    simp [ReadableMembers, ih]

mutual
/-- What reads back has numerals, and spells its own tree. -/
theorem Value.Readable.spelling (v : Value) (h : v.Readable) :
    v.HasNumerals ∧ v.spelling = v.toTree := by
  cases v with
  | number n =>
    have hreread : n.reread? = some n := Number.ReadsBack.reread? h
    exact ⟨Number.hasNumeral_of_reread? hreread, congrArg Tree.number hreread⟩
  | array vs =>
    obtain ⟨hnumerals, hspelling⟩ := ReadableElements.spelling vs h
    exact ⟨hnumerals, congrArg Tree.array hspelling⟩
  | object ms =>
    obtain ⟨hnumerals, hspelling⟩ := ReadableMembers.spelling ms h
    exact ⟨hnumerals, congrArg Tree.object hspelling⟩
  | _ => exact ⟨trivial, rfl⟩

theorem ReadableElements.spelling (vs : List Value) (h : ReadableElements vs) :
    ElementsHaveNumerals vs ∧ spellings vs = Value.treesOf vs := by
  cases vs with
  | nil => exact ⟨trivial, rfl⟩
  | cons v vs =>
    obtain ⟨hv, hvSpelling⟩ := Value.Readable.spelling v h.1
    obtain ⟨hvs, hvsSpelling⟩ := ReadableElements.spelling vs h.2
    exact ⟨⟨hv, hvs⟩, by rw [spellings, hvSpelling, hvsSpelling, Value.treesOf]⟩

theorem ReadableMembers.spelling (ms : List (String × Value)) (h : ReadableMembers ms) :
    MembersHaveNumerals ms ∧ memberSpellings ms = Value.memberTreesOf ms := by
  cases ms with
  | nil => exact ⟨trivial, rfl⟩
  | cons m ms =>
    obtain ⟨key, v⟩ := m
    obtain ⟨hv, hvSpelling⟩ := Value.Readable.spelling v h.1
    obtain ⟨hms, hmsSpelling⟩ := ReadableMembers.spelling ms h.2
    exact ⟨⟨hv, hms⟩, by rw [memberSpellings, hvSpelling, hmsSpelling, Value.memberTreesOf]⟩
end

/-- A layout that puts nothing but gaps between tokens. -/
structure Layout.IsPlain (layout : Layout) : Prop where
  line : ∀ level, (layout.line level).all isGap = true
  afterColon : layout.afterColon.all isGap = true

theorem Layout.isPlain_compact : Layout.compact.IsPlain where
  line _ := rfl
  afterColon := rfl

theorem Layout.isPlain_indented : Layout.indented.IsPlain where
  line level := by
    rw [indented, List.all_cons, List.all_replicate]
    simp [isGap]
  afterColon := rfl

section Write

variable {layout : Layout}

/-- Behind an element comes a comma, or what closes the array. -/
theorem endsToken_writeElements (level : Nat) (vs : List Value) {rest : List Char}
    (h : EndsToken rest) : EndsToken (writeElements layout level vs ++ rest) := by
  cases vs with
  | nil => exact h
  | cons v vs =>
    rw [writeElements, List.cons_append, List.cons_append, List.cons_append]
    exact endsToken_cons ⟨rfl, rfl⟩

theorem endsToken_writeMembers (level : Nat) (ms : List (String × Value)) {rest : List Char}
    (h : EndsToken rest) : EndsToken (writeMembers layout level ms ++ rest) := by
  cases ms with
  | nil => exact h
  | cons m ms =>
    rw [writeMembers]
    exact endsToken_cons ⟨rfl, rfl⟩

variable (hlayout : layout.IsPlain)
include hlayout

theorem endsToken_close {c : Char} (level : Nat) (rest : List Char)
    (hc : isNumeralChar c = false ∧ isWordChar c = false) :
    EndsToken (layout.line level ++ c :: rest) :=
  endsToken_append (hlayout.line level) (endsToken_cons hc)

mutual
/-- Scanning a written value gives the tokens of what it spells. -/
theorem scanFrom_write (done : List Token) (level : Nat) (v : Value) {rest : List Char}
    (hv : v.HasNumerals) (hrest : EndsToken rest) :
    scanFrom done (v.write layout level ++ rest) =
      scanFrom (v.spelling.tokens.reverse ++ done) rest := by
  cases v with
  | null => exact scanFrom_word done rfl rfl rfl hrest
  | bool b => cases b <;> exact scanFrom_word done rfl rfl rfl hrest
  | number n => exact scanFrom_number done hv hrest
  | string s => exact scanFrom_writeText done s rest
  | array vs =>
    cases vs with
    | nil =>
      rw [Value.write, List.cons_append, scanFrom_punctuation done _ rfl, List.cons_append,
        scanFrom_punctuation _ _ rfl]
      rfl
    | cons v vs =>
      obtain ⟨hv, hvs⟩ : v.HasNumerals ∧ ElementsHaveNumerals vs := hv
      have hclose := endsToken_close hlayout level rest (c := ']') ⟨rfl, rfl⟩
      rw [Value.write]
      simp only [List.cons_append, List.append_assoc, List.nil_append]
      rw [scanFrom_punctuation done _ rfl, scanFrom_gaps _ _ (hlayout.line _),
        scanFrom_write _ _ v hv (endsToken_writeElements _ vs hclose),
        scanFrom_writeElements _ _ vs hvs hclose, scanFrom_gaps _ _ (hlayout.line _),
        scanFrom_punctuation _ _ rfl]
      simp [Value.spelling, spellings, Tree.tokens]
  | object ms =>
    cases ms with
    | nil =>
      rw [Value.write, List.cons_append, scanFrom_punctuation done _ rfl, List.cons_append,
        scanFrom_punctuation _ _ rfl]
      rfl
    | cons m ms =>
      obtain ⟨key, v⟩ := m
      obtain ⟨hv, hms⟩ : v.HasNumerals ∧ MembersHaveNumerals ms := hv
      have hclose := endsToken_close hlayout level rest (c := '\x7d') ⟨rfl, rfl⟩
      rw [Value.write]
      simp only [List.cons_append, List.append_assoc, List.nil_append]
      rw [scanFrom_punctuation done _ rfl, scanFrom_gaps _ _ (hlayout.line _),
        scanFrom_writeText, scanFrom_punctuation _ _ rfl, scanFrom_gaps _ _ hlayout.afterColon,
        scanFrom_write _ _ v hv (endsToken_writeMembers _ ms hclose),
        scanFrom_writeMembers _ _ ms hms hclose, scanFrom_gaps _ _ (hlayout.line _),
        scanFrom_punctuation _ _ rfl]
      simp [Value.spelling, memberSpellings, Tree.tokens]

theorem scanFrom_writeElements (done : List Token) (level : Nat) (vs : List Value)
    {rest : List Char} (hvs : ElementsHaveNumerals vs) (hrest : EndsToken rest) :
    scanFrom done (writeElements layout level vs ++ rest) =
      scanFrom ((elementTokens (spellings vs)).reverse ++ done) rest := by
  cases vs with
  | nil => rfl
  | cons v vs =>
    obtain ⟨hv, hvs⟩ := hvs
    rw [writeElements]
    simp only [List.cons_append, List.append_assoc]
    rw [scanFrom_punctuation done _ rfl, scanFrom_gaps _ _ (hlayout.line _),
      scanFrom_write _ _ v hv (endsToken_writeElements _ vs hrest),
      scanFrom_writeElements _ _ vs hvs hrest]
    simp [spellings, elementTokens]

theorem scanFrom_writeMembers (done : List Token) (level : Nat) (ms : List (String × Value))
    {rest : List Char} (hms : MembersHaveNumerals ms) (hrest : EndsToken rest) :
    scanFrom done (writeMembers layout level ms ++ rest) =
      scanFrom ((memberTokens (memberSpellings ms)).reverse ++ done) rest := by
  cases ms with
  | nil => rfl
  | cons m ms =>
    obtain ⟨key, v⟩ := m
    obtain ⟨hv, hms⟩ := hms
    rw [writeMembers]
    simp only [List.cons_append, List.append_assoc]
    rw [scanFrom_punctuation done _ rfl, scanFrom_gaps _ _ (hlayout.line _), scanFrom_writeText,
      scanFrom_punctuation _ _ rfl, scanFrom_gaps _ _ hlayout.afterColon,
      scanFrom_write _ _ v hv (endsToken_writeMembers _ ms hrest),
      scanFrom_writeMembers _ _ ms hms hrest]
    simp [memberSpellings, memberTokens]
end

/-- The tokens of a written value are those of what it spells; gaps behind it do not matter. -/
theorem scan_write (level : Nat) (v : Value) (hv : v.HasNumerals) {gaps : List Char}
    (hgaps : gaps.all isGap = true) :
    scan (v.write layout level ++ gaps) = some v.spelling.tokens := by
  have hends : EndsToken gaps := by
    have happend := endsToken_append hgaps endsToken_nil
    rwa [List.append_nil] at happend
  have hend (done : List Token) : scanFrom done gaps = some done.reverse := by
    have hgone := scanFrom_gaps done [] hgaps
    rw [List.append_nil] at hgone
    rw [hgone, scanFrom]
  rw [scan, scanFrom_write hlayout [] level v hv hends, hend, List.append_nil, List.reverse_reverse]

end Write

end ShopSync.Json
