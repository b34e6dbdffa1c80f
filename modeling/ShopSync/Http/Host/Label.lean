import ShopSync.Http.Host.Punycode
import ShopSync.Http.Host.Spelling
import ShopSync.Text.Composition
import ShopSync.Text.Direction
import ShopSync.Text.Joining
import ShopSync.Text.Truncate

/-!
Names of hosts outside ASCII.

A name is spelt in small letters of the plain shape and in the composed form of its characters, and
points divide it into labels.  A label does not begin with a mark, its joiners have something to
join or to keep apart, and when a name has letters that run to the left, every label of it runs in
one direction.  In ASCII a label that is not ASCII is written after `xn--`; one that comes written
in this way has to be spelt as it would be here.
-/

namespace ShopSync.Http.Host

open Text (inRanges)

/-! ### Spelling -/

/-- The character that keeps letters apart that would join. -/
def nonJoiner : Char := Char.ofNat 0x200c

/-- The character that joins letters. -/
def joiner : Char := Char.ofNat 0x200d

/-- Whether the character joins letters or keeps them apart. -/
def isJoiner (c : Char) : Bool := c = nonJoiner || c = joiner

/-- The character of another alphabet that a character is spelt as. -/
def shifted? (n : Nat) : Option (List Char) :=
  shiftedRanges.findSome? fun (first, last, target) =>
    if first ≤ n ∧ n ≤ last then some [Char.ofNat (target + (n - first))] else none

/-- The small letter after a capital. -/
def lowered? (n : Nat) : Option (List Char) :=
  alternatingRanges.findSome? fun (first, last) =>
    if first ≤ n ∧ n ≤ last ∧ (n - first) % 2 = 0 then some [Char.ofNat (n + 1)] else none

/-- The characters that one is short for. -/
def spelled? (n : Nat) : Option (List Char) :=
  spelledRanges.findSome? fun (first, last, spellings) =>
    if first ≤ n ∧ n ≤ last then ((spellings.splitOn " ")[n - first]?).map String.toList else none

/-- Whether no host has the character. -/
def isBarred (n : Nat) : Bool :=
  inRanges blankRanges n || inRanges barredRanges n || inRanges Text.invisibleRanges n ||
    inRanges Text.unassignedRanges n

/-- How a character is spelt, if a host may have it. -/
def spelling? (c : Char) : Option (List Char) :=
  let n := c.toNat
  if n < 0x80 then some [c.toLower]
  else if inRanges silentRanges n then some []
  else if isJoiner c then some [c]
  else if isBarred n then none
  else some (((shifted? n <|> lowered? n) <|> spelled? n).getD [c])

/-! ### Labels -/

/-- Whether a joiner fits between the characters before it, the last one first, and those after
it: any joiner after a mark that takes the vowel, and one that keeps letters apart between letters
that would join. -/
def joinerFits (c : Char) (before after : List Char) : Bool :=
  before.head?.any (fun b => Text.markClass b = Text.viramaClass) ||
    (c = nonJoiner && (before.dropWhile Text.isTransparent).head?.any Text.joinsNext &&
      (after.dropWhile Text.isTransparent).head?.any Text.joinsPrevious)

/-- Whether all joiners fit that follow the characters before, the last one first. -/
def joinersFit (before : List Char) : List Char → Bool
  | [] => true
  | c :: after => (!isJoiner c || joinerFits c before after) && joinersFit (c :: before) after

/-- What stands before a label that is written in ASCII. -/
def asciiMark : List Char := ['x', 'n', '-', '-']

/-- Whether the label is written in ASCII. -/
def isWritten (label : List Char) : Bool := label.take asciiMark.length = asciiMark

/-- Whether all characters are ASCII. -/
def isAscii (cs : List Char) : Bool := cs.all fun c => decide (c.toNat < 0x80)

/-- Whether the characters can be a label. -/
def isLabel (cs : List Char) : Bool :=
  !isWritten cs && !cs.head?.any Text.isMark && joinersFit [] cs

/-- Whether the characters are spelt as they should be. -/
def isSpelt (cs : List Char) : Bool :=
  cs.all (fun c => spelling? c = some [c]) && Text.composed cs = cs

/-- The bytes that are too many for a label in ASCII, without what stands before it. -/
def writtenLimit : Nat := 2000

/-- The most characters of a label that is written in ASCII. -/
def labelLimit : Nat := 1000

/-- The label that characters name. -/
def label? (cs : List Char) : Option (List Char) :=
  if isWritten cs then do
    let digits := cs.drop asciiMark.length
    if writtenLimit < digits.length then none
    else
      let label ← Punycode.read? digits
      if !isAscii label && isSpelt label && isLabel label then pure label else none
  else if isLabel cs then some cs
  else none

/-- A label in ASCII. -/
def written? (label : List Char) : Option (List Char) :=
  if isAscii label then some label
  else if labelLimit < label.length then none
  else some (asciiMark ++ Punycode.write label)

/-! ### Directions -/

/-- Whether a character of the label runs to the left. -/
def hasLeftward (label : List Char) : Bool :=
  label.any fun c => Text.direction c = .leftward || Text.direction c = .arabicNumber

/-- Whether the label runs in one direction: it begins with a letter, ends with a letter of the
same direction or a number, and does not mix the two kinds of number when it runs to the left. -/
def isDirected (label : List Char) : Bool :=
  let ds := label.map Text.direction
  let last := (ds.reverse.dropWhile (· = .mark)).head?
  match ds.head? with
  | none => true
  | some .rightward =>
    !ds.contains .leftward && !ds.contains .arabicNumber &&
      (last = some .rightward || last = some .number)
  | some .leftward =>
    !ds.contains .rightward && !(ds.contains .number && ds.contains .arabicNumber) &&
      (last = some .leftward || last = some .number || last = some .arabicNumber)
  | some _ => false

/-! ### Names -/

/-- A name in ASCII. -/
def ascii? (cs : List Char) : Option (List Char) := do
  let spelt ← cs.mapM spelling?
  let labels ← (Text.splitOn '.' (Text.composed spelt.flatten)).mapM label?
  if labels.any hasLeftward && !labels.all isDirected then none
  else
    let written ← labels.mapM written?
    pure (List.intercalate ['.'] written)

end ShopSync.Http.Host
