import ShopSync.MarketplaceId
import ShopSync.Number.Decimal

/-!
Arguments of a command line.

A grammar says which flags, options and positional arguments there are and of what kind their
values have to be.  Arguments are taken from left to right; the value of one is looked at only when
the next one has been recognized, so that an argument nobody knows is reported before a value that
is wrong.
-/

namespace ShopSync.Command

open Number (Binary64)

/-- Why arguments are no invocation. -/
inductive UsageError where
  /-- Help was asked for. -/
  | help
  /-- The version was asked for. -/
  | version
  /-- A required argument or the command is missing. -/
  | missing
  /-- There is no such option or command, or no place for another argument. -/
  | unknown
  /-- A value is not of its kind. -/
  | badValue
  /-- An argument is given twice, a value is missing, or a flag has a value. -/
  | misplaced
deriving DecidableEq, Repr

/-! ### Values -/

/-- What the value of an argument has to be. -/
inductive ValueKind where
  | path
  | text
  | marketplace
  /-- An unsigned number of 32 bits. -/
  | quantity
  /-- An unsigned number of 64 bits. -/
  | number
  /-- A floating-point number. -/
  | price
deriving DecidableEq, Repr

/-- The value of an argument. -/
inductive ArgumentValue where
  /-- A flag was given. -/
  | given
  | path (path : String)
  | text (text : String)
  | marketplace (id : MarketplaceId)
  | quantity (n : UInt32)
  | number (n : UInt64)
  | price (x : Binary64)
deriving DecidableEq

/-- An unsigned number of 32 bits; zero may have a minus sign. -/
def readQuantity? (s : String) : Option UInt32 := do
  let n ← Number.int64? s
  if 0 ≤ n ∧ n < UInt32.size then pure (UInt32.ofNat n.toNat) else none

/-- The value that a text is read as, if it is of the kind. -/
def ValueKind.read? (kind : ValueKind) (s : String) : Option ArgumentValue :=
  match kind with
  | path => some (.path s)
  | text => some (.text s)
  | marketplace => (MarketplaceId.parse s).toOption.map .marketplace
  | quantity => (readQuantity? s).map .quantity
  | number => (Number.uint64? s).map .number
  | price => (Number.decimal? s).map .price

/-- The value that a text is read as.  An empty path counts as a missing value. -/
def ValueKind.read (kind : ValueKind) (s : String) : Except UsageError ArgumentValue :=
  if kind = .path ∧ s.isEmpty then .error .misplaced
  else
    match kind.read? s with
    | some value => .ok value
    | none => .error .badValue

/-! ### Grammars -/

/-- The arguments that are known at one level of a command line. -/
structure Grammar where
  flags : List String := []
  options : List (String × ValueKind) := []
  positionals : List (String × ValueKind) := []
  /-- The commands that may follow; each goes on with a grammar of its own. -/
  commands : List String := []
  /-- Whether the version can be asked for. -/
  hasVersion : Bool := false

/-- What an argument looks like. -/
inductive Word where
  /-- Two hyphens: only positional arguments follow. -/
  | separator
  /-- Two hyphens and a name, with a value after an equals sign or without. -/
  | long (name : String) (value : Option String)
  /-- A hyphen and a letter. -/
  | short (letter : Char)
  | plain
deriving DecidableEq, Repr

/-- What an argument looks like. -/
def Word.ofArgument (arg : String) : Word :=
  match arg.toList with
  | ['-', '-'] => .separator
  | '-' :: '-' :: cs =>
    let name := String.ofList (cs.takeWhile (· ≠ '='))
    match cs.dropWhile (· ≠ '=') with
    | _ :: value => .long name (some (String.ofList value))
    | [] => .long name none
  | '-' :: c :: _ => .short c
  | _ => .plain

/-- An argument whose value was not looked at yet. -/
structure Pending where
  name : String
  kind : ValueKind
  /-- The value, or nothing while it is awaited. -/
  value : Option String
deriving DecidableEq

/-- What was found so far at one level. -/
structure Progress where
  found : List (String × ArgumentValue) := []
  pending : Option Pending := none
  /-- The positional arguments that were not given yet. -/
  positionals : List (String × ValueKind)

namespace Progress

/-- Whether the next argument is the value of the last one. -/
def awaitsValue (p : Progress) : Bool :=
  p.pending.any fun pending => pending.value.isNone

/-- The progress with an argument found, which may be given once only. -/
def add (p : Progress) (name : String) (value : Except UsageError ArgumentValue) :
    Except UsageError Progress :=
  if (Keyed.get? name p.found).isSome then .error .misplaced
  else value.map fun value => { p with found := p.found ++ [(name, value)], pending := none }

/-- The progress with the value of the last argument looked at. -/
def settle (p : Progress) : Except UsageError Progress :=
  match p.pending with
  | none => .ok p
  | some { value := none, .. } => .error .misplaced
  | some { name, kind, value := some value } => p.add name (kind.read value)

/-- The progress with the next positional argument. -/
def positional (p : Progress) (arg : String) : Except UsageError Progress :=
  match p.positionals with
  | [] => .error .unknown
  | (name, kind) :: positionals => do
    let p ← p.settle
    pure { p with pending := some { name, kind, value := some arg }, positionals }

/-- The progress with an argument that is no option. -/
def plain (p : Progress) (arg : String) : Except UsageError Progress :=
  match p.pending with
  | some { name, kind, value := none } =>
    .ok { p with pending := some { name, kind, value := some arg } }
  | _ => p.positional arg

/-- The progress with a question that ends the reading, once the last value is right. -/
def ask (p : Progress) (question : UsageError) : Except UsageError Progress := do
  let _ ← p.settle
  throw question

/-- The progress with an option or a flag. -/
def long (g : Grammar) (p : Progress) (name : String) (value : Option String) :
    Except UsageError Progress :=
  match Keyed.get? name g.options, value with
  | some kind, some value => do (← p.settle).add name (kind.read value)
  | some kind, none => do pure { ← p.settle with pending := some { name, kind, value := none } }
  | none, value =>
    let isQuestion := name = "help" || (g.hasVersion && name = "version")
    if !isQuestion && !g.flags.contains name then .error .unknown
    else if value.isSome then .error .misplaced
    else if name = "help" then p.ask .help
    else if isQuestion then p.ask .version
    else do (← p.settle).add name (.ok .given)

/-- The progress with a short option; there are only the two questions. -/
def short (g : Grammar) (p : Progress) (letter : Char) : Except UsageError Progress :=
  if letter = 'h' then p.ask .help
  else if letter = 'V' ∧ g.hasVersion = true then p.ask .version
  else .error .unknown

end Progress

/-! ### Reading a level -/

/-- What help about commands comes to: the commands have none below them. -/
def helpAbout (g : Grammar) : List String → UsageError
  | [] => .help
  | [name] => if name = "help" ∨ g.commands.contains name = true then .help else .unknown
  | _ => .unknown

/-- Reads the arguments of one level up to a command, which comes with the arguments after it. -/
def Grammar.scan (g : Grammar) :
    List String → Progress → Except UsageError (Progress × Option (String × List String))
  | [], p => do pure (← p.settle, none)
  | arg :: rest, p =>
    if !p.awaitsValue && g.commands.contains arg then .ok (p, some (arg, rest))
    else if !p.awaitsValue && !g.commands.isEmpty && arg = "help" then .error (helpAbout g rest)
    else
      match Word.ofArgument arg with
      | .separator => do pure (← (← rest.foldlM Progress.positional p).settle, none)
      | .long name value => do g.scan rest (← p.long g name value)
      | .short letter => do g.scan rest (← p.short g letter)
      | .plain => do g.scan rest (← p.plain arg)

end ShopSync.Command
