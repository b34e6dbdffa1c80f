import ShopSync.Http.Host

/-!
Addresses of requests.

An address is a scheme (`http` or `https` in any case), a colon, slashes, an authority and a
target.  Slashes may lean either way, and line breaks and tabs do not count.  The authority may
begin with a user and an `@`, which are passed over, and end with a port.  As it is written out
again, an address has a limited length.
-/

namespace ShopSync.Http

open Number (isDigit ofDigits)

/-- Where a request goes. -/
structure Address where
  /-- Whether the connection is encrypted. -/
  secure : Bool
  host : Host
  port : Nat
  /-- The path with the query. -/
  target : String
deriving DecidableEq, Repr

namespace Address

/-! ### Parts -/

/-- The characters without those that do not count: blanks and controls at both ends, and tabs and
line breaks anywhere. -/
def significant (cs : List Char) : List Char :=
  let inner := (cs.dropWhile fun c => c.toNat ≤ 0x20).reverse.dropWhile fun c => c.toNat ≤ 0x20
  inner.reverse.filter fun c => c ≠ '\t' ∧ c ≠ '\n' ∧ c ≠ '\r'

/-- Whether the character leans either way as a slash. -/
def isSlash (c : Char) : Bool := c = '/' || c = '\\'

/-- Whether the character ends an authority. -/
def endsAuthority (c : Char) : Bool := isSlash c || c = '?' || c = '#'

/-- The part after the last `@`. -/
def withoutUser (authority : List Char) : List Char :=
  (authority.reverse.takeWhile (· ≠ '@')).reverse

/-- The port that digits name; the standard one when there are none. -/
def port? (standard : Nat) (cs : List Char) : Option Nat :=
  if cs.isEmpty then some standard
  else if cs.all isDigit && decide (ofDigits cs < UInt16.size) then some (ofDigits cs)
  else none

/-! ### Hosts -/

/-- The host of an authority, with its port. -/
def hostAndPort? (standard : Nat) (cs : List Char) : Option (Host × Nat) :=
  match cs with
  | '[' :: rest =>
    match rest.dropWhile (· ≠ ']') with
    | ']' :: after => do
      let host ← Host.ofBrackets? (rest.takeWhile (· ≠ ']'))
      match after with
      | [] => pure (host, standard)
      | ':' :: digits => (port? standard digits).map fun port => (host, port)
      | _ => none
    | _ => none
  | cs => do
    let host ← Host.parse? (cs.takeWhile (· ≠ ':'))
    let port ← port? standard ((cs.dropWhile (· ≠ ':')).drop 1)
    pure (host, port)

/-! ### Targets -/

/-- The characters as they are sent: those that are not visible ASCII characters, and some others,
as percent and hexadecimal digits. -/
def written (others : List Char) (cs : List Char) : List Char :=
  cs.flatMap fun c =>
    if 0x20 < c.toNat ∧ c.toNat < 0x7f ∧ c ∉ others then [c]
    else (Text.Percent.encode c.toString).toList

/-- A segment of a path in which `%2e` is a point. -/
def pointed (segment : List Char) : String :=
  (String.ofList segment).toLower.replace "%2e" "."

/-- The segments that a path comes to after those it has passed: one point leads nowhere and two
points lead back. -/
def walk (passed : List (List Char)) : List (List Char) → List (List Char)
  | [] => passed.reverse
  | segment :: rest =>
    let ending : List (List Char) := if rest.isEmpty then [[]] else []
    if pointed segment = "." then walk (ending ++ passed) rest
    else if pointed segment = ".." then walk (ending ++ passed.tail) rest
    else walk (segment :: passed) rest

/-- The path as it is sent, which begins with a slash. -/
def pathOf (cs : List Char) : List Char :=
  let straight := cs.map fun c => if isSlash c then '/' else c
  match walk [] ((Text.splitOn '/' straight).drop 1) with
  | [] => ['/']
  | segments =>
    segments.flatMap fun segment => '/' :: written ['"', '<', '>', '\x60', '\x7b', '\x7d'] segment

/-- The path and the query, as they are sent. -/
def targetOf (cs : List Char) : String :=
  let isPath (c : Char) : Bool := c ≠ '?' && c ≠ '#'
  let query := (cs.dropWhile isPath).takeWhile (· ≠ '#')
  String.ofList (pathOf (cs.takeWhile isPath) ++ written ['"', '<', '>', '\x27'] query)

/-! ### Addresses -/

/-- The port where requests of a kind go when the address names none. -/
def standardPort (secure : Bool) : Nat := if secure then 443 else 80

/-- The host, with the port when it is not the standard one. -/
def authority (address : Address) : String :=
  if address.port = standardPort address.secure then address.host.text
  else s!"{address.host.text}:{address.port}"

/-- The address as it is written out. -/
def text (address : Address) : String :=
  (if address.secure then "https://" else "http://") ++ address.authority ++ address.target

/-- The most characters of an address that is written out. -/
def lengthLimit : Nat := 65534

/-- Reads an address.  What follows a `#` is not sent but counts for the length. -/
def parse? (s : String) : Option Address := do
  let cs := significant s.toList
  let scheme := (String.ofList (cs.takeWhile (· ≠ ':'))).toLower
  let secure ← if scheme = "http" then some false else if scheme = "https" then some true else none
  let rest ← match cs.dropWhile (· ≠ ':') with
    | _ :: rest => some (rest.dropWhile isSlash)
    | [] => none
  let (host, port) ← hostAndPort? (standardPort secure)
    (withoutUser (rest.takeWhile fun c => !endsAuthority c))
  let target := targetOf (rest.dropWhile fun c => !endsAuthority c)
  let address : Address := { secure, host, port, target }
  let fragment := written ['"', '<', '>', '\x60'] (rest.dropWhile (· ≠ '#'))
  if lengthLimit < address.text.length + fragment.length then none else pure address

end Address

end ShopSync.Http
