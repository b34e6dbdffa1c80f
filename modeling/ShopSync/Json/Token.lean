import ShopSync.Json.Number
import ShopSync.Json.Text

/-!
The tokens of a JSON text.

`scan` keeps what a literal spells apart from whether it has a value: a numeral past the finite
numbers and a string with half a surrogate pair are well-formed tokens without a value, so that
readers which only pass over them need not care.
-/

namespace ShopSync.Json

/-- A token; a numeral or string without a value is `none`. -/
inductive Token where
  | openArray
  | closeArray
  | openObject
  | closeObject
  | comma
  | colon
  | null
  | bool (b : Bool)
  | number (value : Option Number)
  | string (value : Option String)
deriving DecidableEq

/-- The four characters that may stand between tokens. -/
def isGap (c : Char) : Bool :=
  c == ' ' || c == '\t' || c == '\n' || c == '\r'

/-- The characters numerals are made of. -/
def isNumeralChar (c : Char) : Bool :=
  Number.isDigit c || c == '-' || c == '+' || c == '.' || c == 'e' || c == 'E'

/-- The characters of the three words. -/
def isWordChar (c : Char) : Bool :=
  'a' ≤ c && c ≤ 'z'

/-- The token of a word. -/
def wordToken? (cs : List Char) : Option Token :=
  if cs = ['n', 'u', 'l', 'l'] then some .null
  else if cs = ['t', 'r', 'u', 'e'] then some (.bool true)
  else if cs = ['f', 'a', 'l', 's', 'e'] then some (.bool false)
  else none

/-- The token of a punctuation mark. -/
def punctuation? : Char → Option Token
  | '[' => some .openArray
  | ']' => some .closeArray
  | '\x7b' => some .openObject
  | '\x7d' => some .closeObject
  | ',' => some .comma
  | ':' => some .colon
  | _ => none

/-- The first token of characters that do not start with a gap, and what follows it. -/
def token? (c : Char) (rest : List Char) : Option (Token × List Char) :=
  if c = '"' then
    (pieces? [] rest).map fun (ps, rest) =>
      (.string ((spelled? [] ps).map String.ofList), rest)
  else if Number.isDigit c || c == '-' then
    (Literal.parse? (c :: rest.takeWhile isNumeralChar)).map fun literal =>
      (.number literal.number?, rest.dropWhile isNumeralChar)
  else if isWordChar c then
    (wordToken? (c :: rest.takeWhile isWordChar)).map fun token =>
      (token, rest.dropWhile isWordChar)
  else (punctuation? c).map fun token => (token, rest)

/-! ### Every token takes a character -/

theorem length_pieces? {done : List Piece} {cs : List Char} {ps : List Piece} {rest : List Char}
    (h : pieces? done cs = some (ps, rest)) : rest.length < cs.length := by
  fun_induction pieces? done cs with
  | case1 => cases h
  | case2 done rest' =>
    cases h
    exact Nat.lt_succ_self _
  | case3 done a b c d rest' unit hunit ih =>
    have hshorter := ih h
    simp only [List.length_cons]
    omega
  | case4 => cases h
  | case5 done e rest' hshape c hescaped ih =>
    have hshorter := ih h
    simp only [List.length_cons]
    omega
  | case6 => cases h
  | case7 => cases h
  | case8 done c rest' hquote hunit hescape hplain ih =>
    have hshorter := ih h
    rw [List.length_cons]
    omega

theorem length_dropWhile (p : Char → Bool) (cs : List Char) :
    (cs.dropWhile p).length ≤ cs.length :=
  (List.dropWhile_sublist p).length_le

theorem length_token? {c : Char} {cs : List Char} {t : Token} {rest : List Char}
    (h : token? c cs = some (t, rest)) : rest.length ≤ cs.length := by
  unfold token? at h
  split at h
  · obtain ⟨⟨ps, r⟩, hp, he⟩ := Option.map_eq_some_iff.1 h
    obtain rfl : r = rest := (Prod.mk.inj he).2
    exact Nat.le_of_lt (length_pieces? hp)
  · split at h
    · obtain ⟨_, _, he⟩ := Option.map_eq_some_iff.1 h
      rw [← (Prod.mk.inj he).2]
      exact length_dropWhile _ _
    · split at h
      · obtain ⟨_, _, he⟩ := Option.map_eq_some_iff.1 h
        rw [← (Prod.mk.inj he).2]
        exact length_dropWhile _ _
      · obtain ⟨_, _, he⟩ := Option.map_eq_some_iff.1 h
        exact Nat.le_of_eq (congrArg List.length (Prod.mk.inj he).2.symm)

/-! ### The tokens of a text -/

/-- The tokens of the characters; `done` holds the tokens before, latest first. -/
def scanFrom (done : List Token) : List Char → Option (List Token)
  | [] => some done.reverse
  | c :: rest =>
    if isGap c then scanFrom done rest
    else match _h : token? c rest with
      | some (token, rest') => scanFrom (token :: done) rest'
      | none => none
termination_by cs => cs.length
decreasing_by
  · simp
  · have := length_token? _h
    simp only [List.length_cons]
    omega

/-- The tokens of a text. -/
def scan (cs : List Char) : Option (List Token) :=
  scanFrom [] cs

end ShopSync.Json
