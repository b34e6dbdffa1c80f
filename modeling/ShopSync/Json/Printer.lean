import ShopSync.Json.Value

/-!
Writing values as JSON.

A layout says what stands after an opening bracket, after a comma and before a closing bracket,
and what follows a colon.  Both layouts put only gaps there, so the tokens are the same.
-/

namespace ShopSync.Json

/-- The gaps between tokens. -/
structure Layout where
  /-- The gap in front of an element or a closing bracket at a level of nesting. -/
  line : Nat → List Char
  /-- The gap after a colon. -/
  afterColon : List Char

/-- Nothing between tokens. -/
def Layout.compact : Layout where
  line _ := []
  afterColon := []

/-- One line per element, indented by two blanks per level. -/
def Layout.indented : Layout where
  line level := '\n' :: List.replicate (2 * level) ' '
  afterColon := [' ']

mutual
/-- A value at a level of nesting. -/
def Value.write (layout : Layout) (level : Nat) : Value → List Char
  | .null => ['n', 'u', 'l', 'l']
  | .bool true => ['t', 'r', 'u', 'e']
  | .bool false => ['f', 'a', 'l', 's', 'e']
  | .number n => n.write
  | .string s => writeText s
  | .array [] => ['[', ']']
  | .array (v :: vs) =>
    '[' :: layout.line (level + 1) ++ v.write layout (level + 1)
      ++ writeElements layout (level + 1) vs ++ layout.line level ++ [']']
  | .object [] => ['\x7b', '\x7d']
  | .object ((key, v) :: ms) =>
    '\x7b' :: layout.line (level + 1) ++ writeText key ++ ':' :: layout.afterColon
      ++ v.write layout (level + 1) ++ writeMembers layout (level + 1) ms
      ++ layout.line level ++ ['\x7d']

/-- The elements after the first one. -/
def writeElements (layout : Layout) (level : Nat) : List Value → List Char
  | [] => []
  | v :: vs => ',' :: layout.line level ++ v.write layout level ++ writeElements layout level vs

/-- The members after the first one. -/
def writeMembers (layout : Layout) (level : Nat) : List (String × Value) → List Char
  | [] => []
  | (key, v) :: ms =>
    ',' :: layout.line level ++ writeText key ++ ':' :: layout.afterColon
      ++ v.write layout level ++ writeMembers layout level ms
end

/-- The value on one line. -/
def Value.render (v : Value) : String :=
  String.ofList (v.write .compact 0)

/-- The value with one line per element. -/
def Value.renderIndented (v : Value) : String :=
  String.ofList (v.write .indented 0)

end ShopSync.Json
