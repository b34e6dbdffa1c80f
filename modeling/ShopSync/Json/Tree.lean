import ShopSync.Json.Token

/-!
The tree that a JSON text spells.

A tree keeps everything the text says: members in order and with repeated keys, numerals and
strings without a value, nesting of any depth.  It is built by a machine that reads the tokens
from left to right with a stack of the arrays and objects that are still open, so depth is bounded
by nothing but the text.
-/

namespace ShopSync.Json

/-- What a text spells. -/
inductive Tree where
  | null
  | bool (b : Bool)
  | number (value : Option Number)
  | string (value : Option String)
  | array (elements : List Tree)
  | object (members : List (Option String × Tree))

/-- An array or object that is still open; what it holds so far is kept latest first. -/
inductive Frame where
  | elements (done : List Tree)
  | members (done : List (Option String × Tree))
  /-- An object in which the value of `key` comes next. -/
  | member (done : List (Option String × Tree)) (key : Option String)

/-- What may come next. -/
inductive Expect where
  | value
  /-- A value or the end of an array that was just opened. -/
  | firstElement
  | key
  /-- A key or the end of an object that was just opened. -/
  | firstKey
  | colon
  /-- What may follow a complete value. -/
  | after (tree : Tree)

/-- The state of the machine. -/
structure Machine where
  expect : Expect
  stack : List Frame

/-- The machine before the first token. -/
def Machine.start : Machine := { expect := .value, stack := [] }

/-- The state after a token in the place of a value. -/
def Machine.onValue (stack : List Frame) : Token → Option Machine
  | .null => some { expect := .after .null, stack }
  | .bool b => some { expect := .after (.bool b), stack }
  | .number n => some { expect := .after (.number n), stack }
  | .string s => some { expect := .after (.string s), stack }
  | .openArray => some { expect := .firstElement, stack := .elements [] :: stack }
  | .openObject => some { expect := .firstKey, stack := .members [] :: stack }
  | _ => none

/-- The state after a token in the place of a key. -/
def Machine.onKey (stack : List Frame) : Token → Option Machine
  | .string key =>
    match stack with
    | .members done :: stack => some { expect := .colon, stack := .member done key :: stack }
    | _ => none
  | _ => none

/-- The state after a token that follows a complete value. -/
def Machine.onAfter (tree : Tree) : List Frame → Token → Option Machine
  | .elements done :: stack, .comma =>
    some { expect := .value, stack := .elements (tree :: done) :: stack }
  | .elements done :: stack, .closeArray =>
    some { expect := .after (.array (tree :: done).reverse), stack }
  | .member done key :: stack, .comma =>
    some { expect := .key, stack := .members ((key, tree) :: done) :: stack }
  | .member done key :: stack, .closeObject =>
    some { expect := .after (.object ((key, tree) :: done).reverse), stack }
  | _, _ => none

/-- The state after a token. -/
def Machine.step (machine : Machine) (token : Token) : Option Machine :=
  match machine.expect with
  | .value => Machine.onValue machine.stack token
  | .firstElement =>
    match token, machine.stack with
    | .closeArray, .elements _ :: stack => some { expect := .after (.array []), stack }
    | token, stack => Machine.onValue stack token
  | .key => Machine.onKey machine.stack token
  | .firstKey =>
    match token, machine.stack with
    | .closeObject, .members _ :: stack => some { expect := .after (.object []), stack }
    | token, stack => Machine.onKey stack token
  | .colon => if token = .colon then some { machine with expect := .value } else none
  | .after tree => Machine.onAfter tree machine.stack token

/-- The state after all tokens. -/
def Machine.run : Machine → List Token → Option Machine
  | machine, [] => some machine
  | machine, token :: tokens =>
    match machine.step token with
    | some machine => machine.run tokens
    | none => none

/-- The tree, when one is complete and nothing is open. -/
def Machine.result? (machine : Machine) : Option Tree :=
  match machine.expect, machine.stack with
  | .after tree, [] => some tree
  | _, _ => none

/-- The tree that tokens spell. -/
def Tree.ofTokens? (tokens : List Token) : Option Tree :=
  (Machine.start.run tokens).bind Machine.result?

/-- The tree that a text spells. -/
def Tree.parse? (text : String) : Option Tree :=
  (scan text.toList).bind Tree.ofTokens?

end ShopSync.Json
