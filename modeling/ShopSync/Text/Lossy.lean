/-!
Reading bytes as UTF-8 when some of them may be wrong.

A character that is cut off or misspelled counts as one replacement character, as far as its bytes
could have been the beginning of a character; reading goes on after them.
-/

namespace ShopSync.Text.Lossy

/-- What stands for bytes that are no character. -/
def replacement : Char := '\ufffd'

/-- The bytes that may follow a first byte: how many, and the bounds of the next one. -/
structure Lead where
  count : Nat
  least : Nat := 0x80
  greatest : Nat := 0xbf

/-- What may follow a first byte past the ASCII range, when a character can begin with it. -/
def lead? (b : Nat) : Option Lead :=
  if b < 0xc2 then none
  else if b < 0xe0 then some { count := 1 }
  else if b = 0xe0 then some { count := 2, least := 0xa0 }
  else if b = 0xed then some { count := 2, greatest := 0x9f }
  else if b < 0xf0 then some { count := 2 }
  else if b = 0xf0 then some { count := 3, least := 0x90 }
  else if b < 0xf4 then some { count := 3 }
  else if b = 0xf4 then some { count := 3, greatest := 0x8f }
  else none

/-- As many of the first bytes as can follow. -/
def followers (lead : Lead) (bs : List UInt8) : List UInt8 :=
  match bs.take lead.count with
  | [] => []
  | b :: rest =>
    if lead.least ≤ b.toNat ∧ b.toNat ≤ lead.greatest then
      b :: rest.takeWhile fun b => 0x80 ≤ b.toNat ∧ b.toNat ≤ 0xbf
    else []

/-- The character that a first byte and those after it spell. -/
def spelled (first : UInt8) (count : Nat) (following : List UInt8) : Char :=
  Char.ofNat (following.foldl (fun n b => 64 * n + b.toNat % 64) (first.toNat % Nat.pow 2 (6 - count)))

/-- The characters that bytes spell. -/
def decode : List UInt8 → List Char
  | [] => []
  | b :: rest =>
    if b.toNat < 0x80 then Char.ofNat b.toNat :: decode rest
    else
      match lead? b.toNat with
      | none => replacement :: decode rest
      | some lead =>
        let following := followers lead rest
        (if following.length = lead.count then spelled b lead.count following else replacement)
          :: decode (rest.drop following.length)
termination_by bs => bs.length
decreasing_by all_goals simp only [List.length_cons, List.length_drop]; omega

end ShopSync.Text.Lossy
