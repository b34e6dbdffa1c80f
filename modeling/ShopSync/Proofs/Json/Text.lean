import Mathlib.Tactic
import ShopSync.Json.Text

/-!
String literals read back.

Every character is written as itself or as one escape, and each of these is read as that
character; so a literal that was written is read as the text it was written for, whatever
follows its closing quote.
-/

namespace ShopSync.Json

theorem hexDigit?_lowerHex {n : Nat} (h : n < 16) : hexDigit? (lowerHex n) = some n := by
  interval_cases n <;> rfl

theorem hexUnit?_control {n : Nat} (h : n < 32) :
    hexUnit? '0' '0' (lowerHex (n / 16)) (lowerHex (n % 16)) = some n := by
  have hhigh := hexDigit?_lowerHex (n := n / 16) (by omega)
  have hlow := hexDigit?_lowerHex (n := n % 16) (by omega)
  have hzero : hexDigit? '0' = some 0 := rfl
  simp only [hexUnit?, hzero, hhigh, hlow, Option.bind_eq_bind, Option.bind_some,
    Option.pure_def]
  congr 1
  omega

theorem pieces?_escapeChar (done : List Piece) (c : Char) (rest : List Char) :
    pieces? done (escapeChar c ++ rest) = pieces? (.char c :: done) rest := by
  unfold escapeChar
  split
  case h_8 hquote hslash _ _ _ _ _ =>
    split
    next hlt =>
      -- a control character without a letter of its own is written as its code unit
      have hunit : Piece.ofUnit c.toNat = .char c := by
        rw [Piece.ofUnit, if_neg (by omega), Char.ofNat_toNat]
      simp only [List.cons_append, List.nil_append, pieces?, hexUnit?_control hlt, hunit]
    next hge =>
      simp only [List.cons_append, List.nil_append]
      rw [pieces?]
      · rw [if_neg]
        rintro (h | h)
        · exact hge h
        · exact hslash h
      · exact hquote
      · intro a b c d rest h
        exact absurd h hslash
      · intro e rest h
        exact absurd h hslash
  all_goals rfl

theorem pieces?_flatMap_escapeChar (done : List Piece) (cs rest : List Char) :
    pieces? done (cs.flatMap escapeChar ++ '"' :: rest) =
      some (done.reverse ++ cs.map .char, rest) := by
  induction cs generalizing done with
  | nil => simp [pieces?]
  | cons c cs ih =>
    rw [List.flatMap_cons, List.append_assoc, pieces?_escapeChar, ih]
    simp

theorem spelled?_map_char (done cs : List Char) :
    spelled? done (cs.map .char) = some (done.reverse ++ cs) := by
  induction cs generalizing done with
  | nil => simp [spelled?]
  | cons c cs ih =>
    rw [List.map_cons, spelled?, ih]
    simp

/-- The pieces of a text spell the text. -/
theorem spelled?_pieces (s : String) :
    (spelled? [] (s.toList.map .char)).map String.ofList = some s := by
  rw [spelled?_map_char]
  simp

end ShopSync.Json
