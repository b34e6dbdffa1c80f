/-!
Cutting texts: at their blanks, at separators, and at a number of characters.

`isBlank` is the white space of the Unicode standard (property `White_Space`), `isControl` its
general category `Cc`.  `trim` cuts blanks from both ends and nothing else, so a trimmed text
neither starts nor ends with a blank.  The unit of `truncate` is the character, so no character is
ever split, and a text that was shortened ends in three dots.
-/

namespace ShopSync.Text

/-- White space of the Unicode standard. -/
def isBlank (c : Char) : Bool :=
  let n := c.toNat
  (0x09 ≤ n && n ≤ 0x0d) || n == 0x20 || n == 0x85 || n == 0xa0 || n == 0x1680 ||
    (0x2000 ≤ n && n ≤ 0x200a) || n == 0x2028 || n == 0x2029 || n == 0x202f || n == 0x205f ||
    n == 0x3000

/-- Control characters: the two blocks of category `Cc`. -/
def isControl (c : Char) : Bool :=
  let n := c.toNat
  n < 0x20 || (0x7f ≤ n && n < 0xa0)

/-! ### Trimming on lists of characters -/

/-- The characters without the blanks they end in. -/
def stripEnd (cs : List Char) : List Char :=
  (cs.reverse.dropWhile isBlank).reverse

/-- The characters without the blanks at either end. -/
def strip (cs : List Char) : List Char :=
  stripEnd (cs.dropWhile isBlank)

/-- A condition that fails at the head of a list stops `dropWhile` at once. -/
theorem dropWhile_eq_self {p : α → Bool} {l : List α} (h : ∀ a, l.head? = some a → p a = false) :
    l.dropWhile p = l := by
  cases l with
  | nil => rfl
  | cons a l => simp [h a rfl]

theorem head?_dropWhile_isBlank (cs : List Char) (c : Char)
    (h : (cs.dropWhile isBlank).head? = some c) : isBlank c = false := by
  induction cs with
  | nil => simp at h
  | cons d cs ih =>
    rw [List.dropWhile_cons] at h
    split at h
    · exact ih h
    next hd =>
      simp only [List.head?_cons, Option.some.injEq] at h
      simpa [h] using hd

theorem stripEnd_isPrefix (cs : List Char) : stripEnd cs <+: cs := by
  have h : cs.reverse.dropWhile isBlank <:+ cs.reverse := List.dropWhile_suffix isBlank
  simpa [stripEnd] using List.reverse_prefix.2 h

theorem stripEnd_stripEnd (cs : List Char) : stripEnd (stripEnd cs) = stripEnd cs := by
  unfold stripEnd
  rw [List.reverse_reverse, dropWhile_eq_self (head?_dropWhile_isBlank _)]

theorem strip_strip (cs : List Char) : strip (strip cs) = strip cs := by
  have h : (strip cs).dropWhile isBlank = strip cs := by
    refine dropWhile_eq_self fun c hc => ?_
    obtain ⟨t, ht⟩ := stripEnd_isPrefix (cs.dropWhile isBlank)
    refine head?_dropWhile_isBlank cs c ?_
    rw [← ht]
    unfold strip at hc
    cases hs : stripEnd (cs.dropWhile isBlank) with
    | nil => rw [hs] at hc; simp at hc
    | cons d r => rw [hs] at hc; simpa using hc
  conv => lhs; rw [strip, h]
  unfold strip
  exact stripEnd_stripEnd _

/-! ### Trimming texts -/

/-- The text without the blanks at either end. -/
def trim (s : String) : String :=
  String.ofList (strip s.toList)

/-- Whether nothing is left of the text once it is trimmed. -/
def isBlankText (s : String) : Bool :=
  s.toList.all isBlank

/-! ### Parts between separators -/

/-- The characters between separators. -/
def splitOn (separator : Char) : List Char → List (List Char)
  | [] => [[]]
  | c :: cs =>
    if c = separator then [] :: splitOn separator cs
    else
      match splitOn separator cs with
      | [] => [[c]]
      | part :: parts => (c :: part) :: parts

/-! ### Shortening -/

/-- What a shortened text ends in. -/
def ellipsis : List Char := ['.', '.', '.']

/-- At most `limit` of the characters: all of them when they fit, otherwise the first ones
without trailing blanks and then the ellipsis, or as many dots as there is room for. -/
def truncateChars (cs : List Char) (limit : Nat) : List Char :=
  if cs.length ≤ limit then cs
  else if limit ≤ ellipsis.length then ellipsis.take limit
  else stripEnd (cs.take (limit - ellipsis.length)) ++ ellipsis

/-- The text, shortened to at most `limit` characters. -/
def truncate (s : String) (limit : Nat) : String :=
  String.ofList (truncateChars s.toList limit)

end ShopSync.Text
