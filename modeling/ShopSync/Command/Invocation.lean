import ShopSync.Command.Argument
import ShopSync.Sku

/-!
What the program can be asked to do, and how it is asked on the command line.
-/

namespace ShopSync.Command

open Number (Binary64)

/-- What the program is asked to do.  Where the marketplace may be left out, all active ones are
meant. -/
inductive Task where
  | status
  | exportProducts (path : String) (marketplace : Option MarketplaceId)
  | importOrders (since : Option String) (marketplace : Option MarketplaceId)
  | stock (sku : String) (quantity : UInt32) (marketplace : Option MarketplaceId)
  | price (sku : String) (price : Binary64) (marketplace : Option MarketplaceId)
  | delete (sku : String) (marketplace : MarketplaceId)
  | categories (marketplace : MarketplaceId)
  | ship (orderId carrier trackingCode : String) (marketplace : MarketplaceId)
  | orderStatus (orderId status : String) (marketplace : MarketplaceId)
  | history (marketplace : MarketplaceId) (limit : Nat)
deriving DecidableEq

/-- The command of a task. -/
def Task.name : Task → String
  | status => "status"
  | exportProducts .. => "export"
  | importOrders .. => "import"
  | stock .. => "stock"
  | price .. => "price"
  | delete .. => "delete"
  | categories .. => "categories"
  | ship .. => "ship"
  | orderStatus .. => "order-status"
  | history .. => "history"

/-- A task with what holds for every task. -/
structure Invocation where
  task : Task
  /-- The file with configurations; without it the environment is read. -/
  configPath : Option String := none
  /-- The file in which the store is kept between runs. -/
  statePath : Option String := none
  pretty : Bool := false
  /-- The time limit of a request, instead of the configured one. -/
  timeoutMs : Option UInt64 := none
  /-- Seconds after which a batch stops. -/
  deadlineSecs : Option UInt64 := none
deriving DecidableEq

/-! ### Grammars -/

/-- The flags of every level. -/
def generalFlags : List String := ["pretty"]

/-- The options of every level. -/
def generalOptions : List (String × ValueKind) :=
  [("config", .path), ("state", .path), ("timeout-ms", .number), ("deadline-secs", .number)]

/-- The positional arguments and the options of each command. -/
def commandTable : List (String × List (String × ValueKind) × List (String × ValueKind)) :=
  let marketplace : String × ValueKind := ("marketplace", .marketplace)
  [("status", [], []),
    ("export", [("products", .path)], [marketplace]),
    ("import", [], [("since", .text), marketplace]),
    ("stock", [("sku", .text), ("quantity", .quantity)], [marketplace]),
    ("price", [("sku", .text), ("price", .price)], [marketplace]),
    ("delete", [("sku", .text)], [marketplace]),
    ("categories", [], [marketplace]),
    ("ship", [("order-id", .text)], [("carrier", .text), ("tracking-code", .text), marketplace]),
    ("order-status", [("order-id", .text), ("status", .text)], [marketplace]),
    ("history", [], [marketplace, ("limit", .number)])]

/-- The grammar in front of the command. -/
def generalGrammar : Grammar where
  flags := generalFlags
  options := generalOptions
  commands := commandTable.map Prod.fst
  hasVersion := true

/-- The grammar after a command. -/
def commandGrammar (name : String) : Grammar :=
  let (positionals, options) := (Keyed.get? name commandTable).getD ([], [])
  { flags := generalFlags, options := options ++ generalOptions, positionals }

/-! ### Tasks from arguments -/

/-- Arguments with their values. -/
abbrev Arguments := List (String × ArgumentValue)

namespace Arguments

def path? (args : Arguments) (name : String) : Option String :=
  match Keyed.get? name args with
  | some (.path s) => some s
  | _ => none

def text? (args : Arguments) (name : String) : Option String :=
  match Keyed.get? name args with
  | some (.text s) => some s
  | _ => none

def number? (args : Arguments) (name : String) : Option UInt64 :=
  match Keyed.get? name args with
  | some (.number n) => some n
  | _ => none

def quantity? (args : Arguments) (name : String) : Option UInt32 :=
  match Keyed.get? name args with
  | some (.quantity n) => some n
  | _ => none

def price? (args : Arguments) (name : String) : Option Binary64 :=
  match Keyed.get? name args with
  | some (.price x) => some x
  | _ => none

def marketplace? (args : Arguments) : Option MarketplaceId :=
  match Keyed.get? "marketplace" args with
  | some (.marketplace id) => some id
  | _ => none

end Arguments

/-- The marketplace that is meant when a task needs one and none is named. -/
def defaultMarketplace : MarketplaceId := .etsy

/-- How many results a history has unless something else is said. -/
def defaultLimit : Nat := 20

/-- The task of a command, when every required argument is there. -/
def Task.ofArguments? (name : String) (args : Arguments) : Option Task := do
  let chosen := args.marketplace?
  let one := chosen.getD defaultMarketplace
  match name with
  | "status" => pure .status
  | "export" => pure (.exportProducts (← args.path? "products") chosen)
  | "import" => pure (.importOrders (args.text? "since") chosen)
  | "stock" => pure (.stock (← args.text? "sku") (← args.quantity? "quantity") chosen)
  | "price" => pure (.price (← args.text? "sku") (← args.price? "price") chosen)
  | "delete" => pure (.delete (← args.text? "sku") one)
  | "categories" => pure (.categories one)
  | "ship" =>
    pure (.ship (← args.text? "order-id") (← args.text? "carrier") (← args.text? "tracking-code")
      one)
  | "order-status" => pure (.orderStatus (← args.text? "order-id") (← args.text? "status") one)
  | "history" => pure (.history one (((args.number? "limit").map UInt64.toNat).getD defaultLimit))
  | _ => none

/-- The invocation that arguments spell.  What holds for every task may stand in front of the
command or after it; what stands after it counts. -/
def Invocation.ofArguments (args : List String) : Except UsageError Invocation := do
  let (general, command) ← generalGrammar.scan args { positionals := [] }
  match command with
  | none => throw .missing
  | some (name, rest) =>
    let grammar := commandGrammar name
    let (special, _) ← grammar.scan rest { positionals := grammar.positionals }
    match Task.ofArguments? name special.found with
    | none => throw .missing
    | some task =>
      let general ← general.settle
      let args : Arguments := special.found ++ general.found
      pure
        { task
          configPath := args.path? "config"
          statePath := args.path? "state"
          pretty := (Keyed.get? "pretty" args).isSome
          timeoutMs := args.number? "timeout-ms"
          deadlineSecs := args.number? "deadline-secs" }

end ShopSync.Command
