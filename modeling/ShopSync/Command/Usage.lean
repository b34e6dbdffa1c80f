import ShopSync.Command.Run

/-!
What is said about the use of the program: the help, the version, and complaints about arguments.
-/

namespace ShopSync.Command

/-- The name of the program. -/
def program : String := "shopsync"

/-- The version of the program. -/
def version : String := "0.1.0"

/-- What each command does. -/
def commandPurposes : List (String × String) :=
  [("status", "Show configuration state and the last export per marketplace"),
    ("export", "Create or update listings for every product in a JSON file"),
    ("import", "Import orders; defaults to everything since the last import"),
    ("stock", "Set the stock quantity of one SKU"),
    ("price", "Set the price of one SKU"),
    ("delete", "Delete the listing of one SKU"),
    ("categories", "List the marketplace taxonomy"),
    ("ship", "Mark an order as shipped with carrier and tracking code"),
    ("order-status", "Push a status for an imported order"),
    ("history", "Show recorded sync results")]

/-- Every command has a purpose. -/
theorem map_fst_commandPurposes : commandPurposes.map Prod.fst = commandTable.map Prod.fst := rfl

/-- How a value is called. -/
def ValueKind.placeholder : ValueKind → String
  | path => "PATH"
  | text => "TEXT"
  | marketplace => "MARKETPLACE"
  | quantity => "QUANTITY"
  | number => "NUMBER"
  | price => "PRICE"

/-- The options that cannot be left out. -/
def requiredOptions : List String := ["carrier", "tracking-code"]

/-- An option as it is written, in brackets when it can be left out. -/
def optionUsage (o : String × ValueKind) : String :=
  let option := s!"--{o.1} {o.2.placeholder}"
  if requiredOptions.contains o.1 then option else s!"[{option}]"

/-- A command as it is written. -/
def commandUsage (name : String) : String :=
  let grammar := commandGrammar name
  let special := grammar.options.filter fun o => !generalOptions.contains o
  " ".intercalate (name :: grammar.positionals.map (fun p => s!"<{p.1}>") ++ special.map optionUsage)

/-- The help. -/
def helpText : String :=
  let general := " ".intercalate
    (generalOptions.map optionUsage ++ generalFlags.map fun flag => s!"[--{flag}]")
  let commands := commandPurposes.map fun (name, purpose) =>
    s!"  {commandUsage name}\n      {purpose}\n"
  s!"Usage: {program} {general} COMMAND\n\nCommands:\n" ++ String.join commands

/-- What is said about arguments that are no invocation. -/
def UsageError.message : UsageError → String
  | help => helpText
  | version => s!"{program} {Command.version}\n"
  | missing => "a required argument is missing"
  | unknown => "an argument is not known"
  | badValue => "a value is not of its kind"
  | misplaced => "an argument is given twice, has no value, or has one that it does not take"

namespace Outcome

/-- What is written to the standard output. -/
def written : Outcome → String
  | usage .help => UsageError.help.message
  | usage .version => UsageError.version.message
  | outcome => outcome.output

/-- What is written to the standard error. -/
def complaint : Outcome → String
  | usage .help => ""
  | usage .version => ""
  | usage cause => s!"error: {cause.message}; try --help\n"
  | failed cause => s!"error: {cause.message}\n"
  | reported _ _ => ""

end Outcome

end ShopSync.Command
