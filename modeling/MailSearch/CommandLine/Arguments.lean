import MailSearch.Text.Digits

/-!
# Arguments

`Request.ofArguments` reads the arguments of the program: a command, its operands, and options
before and after them.

* An option is `--name`, with its value after an equals sign or in the next argument; a value in an
  argument of its own starts with no dash, unless it is a single one.
* After `--` every argument is an operand.
* An option is given once, unless it collects values. What holds for all commands can be given
  before the command and after it; what stands after it counts.

Some options can also be given in the environment. Whatever is not of this form is a usage error.
-/

namespace MailSearch

open Text

/-- An option: whether it has a value, and whether it can be given more than once. -/
structure OptionSpec where
  name : String
  takesValue : Bool
  collects : Bool
  deriving DecidableEq, Repr

namespace OptionSpec

/-- An option without a value. -/
def flag (name : String) : OptionSpec := ⟨name, false, false⟩

/-- An option with one value. -/
def value (name : String) : OptionSpec := ⟨name, true, false⟩

/-- An option that collects values. -/
def values (name : String) : OptionSpec := ⟨name, true, true⟩

end OptionSpec

/-- Options with their values, in order; those without a value have an empty one. -/
structure GivenOptions where
  options : List (String × String) := []
  deriving DecidableEq, Repr

namespace GivenOptions

/-- Whether an option is given. -/
def has (g : GivenOptions) (name : String) : Bool := g.options.any (·.1 = name)

/-- The value of an option. -/
def value? (g : GivenOptions) (name : String) : Option String := g.options.lookup name

/-- All values of an option. -/
def values (g : GivenOptions) (name : String) : List String :=
  (g.options.filter (·.1 = name)).map Prod.snd

/-- Adds an option. One that does not collect values is given only once. -/
def add? (g : GivenOptions) (spec : OptionSpec) (value : String) : Option GivenOptions :=
  if g.has spec.name && !spec.collects then none else some ⟨g.options ++ [(spec.name, value)]⟩

end GivenOptions

/-- What an argument is. -/
inductive Argument where
  | operand
  /-- The mark after which all arguments are operands. -/
  | endOfOptions
  | option (spec : OptionSpec)
  | optionWith (spec : OptionSpec) (value : String)
  | unknown
  deriving DecidableEq, Repr

/-- The names of the options that ask for nothing but a text about the program. -/
def shortNames : List (Char × String) := [('V', "version"), ('h', "help")]

/-- What an argument is, among the options that may be given. -/
def Argument.classify (specs : List OptionSpec) (argument : String) : Argument :=
  match argument.toList with
  | ['-', '-'] => endOfOptions
  | '-' :: '-' :: cs =>
    let name := String.ofList (cs.takeWhile (· ≠ '='))
    match specs.find? (·.name = name), cs.dropWhile (· ≠ '=') with
    | some spec, [] => option spec
    | some spec, _ :: value =>
      if spec.takesValue then optionWith spec (String.ofList value) else unknown
    | none, _ => unknown
  | '-' :: c :: _ =>
    match (shortNames.lookup c).bind fun name => specs.find? (·.name = name) with
    | some spec => option spec
    | none => unknown
  | _ => operand

/-- What arguments come to. -/
inductive Reading where
  /-- Options and operands, and the arguments that were not read. -/
  | done (given : GivenOptions) (operands rest : List String)
  | version
  | help
  | refused

/-- Reads arguments. With `onlyFirst` it stops after the first operand. `pending` is an option that
waits for its value, and `ended` says that only operands follow. -/
def readArguments (specs : List OptionSpec) (onlyFirst ended : Bool)
    (pending : Option OptionSpec) (given : GivenOptions) (operands : List String) :
    List String → Reading
  | [] => if pending.isSome then .refused else .done given operands []
  | argument :: rest =>
    if ended then readArguments specs onlyFirst true none given (operands ++ [argument]) rest
    else match pending, Argument.classify specs argument with
      | some spec, .operand =>
        match given.add? spec argument with
        | some given => readArguments specs onlyFirst false none given operands rest
        | none => .refused
      | some _, _ => .refused
      | none, .operand =>
        if onlyFirst then .done given [argument] rest
        else readArguments specs onlyFirst false none given (operands ++ [argument]) rest
      | none, .endOfOptions =>
        if onlyFirst then .refused else readArguments specs onlyFirst true none given operands rest
      | none, .option spec =>
        if spec.name = "version" then .version
        else if spec.name = "help" then .help
        else if spec.takesValue then
          readArguments specs onlyFirst false (some spec) given operands rest
        else match given.add? spec "" with
          | some given => readArguments specs onlyFirst false none given operands rest
          | none => .refused
      | none, .optionWith spec value =>
        match given.add? spec value with
        | some given => readArguments specs onlyFirst false none given operands rest
        | none => .refused
      | none, .unknown => .refused

/-! ## Requests -/

/-- What a search is asked for on the command line. Days are kept as written. -/
structure SearchArguments where
  query : String
  user : String
  sender : Option String
  subject : Option String
  since : Option String
  untilDay : Option String
  hasAttachments : Option Bool
  isRead : Option Bool
  starred : Bool
  accounts : List String
  labels : List String
  limit : Nat
  offset : Nat
  deriving DecidableEq, Repr

/-- The commands. -/
inductive Command where
  | search (arguments : SearchArguments)
  | parse (query : String)
  | operators
  | stats
  deriving DecidableEq, Repr

/-- What holds for all commands. -/
structure Settings where
  json : Bool
  config : Option String
  database : Option String
  deriving DecidableEq, Repr

/-- What the program is asked to do. -/
inductive Request where
  | run (settings : Settings) (command : Command)
  | version
  | help
  | usageError
  deriving DecidableEq, Repr

/-- The options of all commands. -/
def commonOptions : List OptionSpec :=
  [.flag "json", .value "config", .value "db", .flag "help"]

/-- The options before the command. -/
def mainOptions : List OptionSpec := .flag "version" :: commonOptions

/-- The options of a search. -/
def searchOptions : List OptionSpec :=
  [.value "user", .value "from", .value "subject", .value "since", .value "until",
    .flag "has-attachments", .flag "no-attachments", .flag "read", .flag "unread",
    .flag "starred", .values "account", .values "label", .value "limit", .value "offset"] ++
  commonOptions

/-- A number of 64 bits, which may have a plus before it. -/
def readCount? (s : String) : Option Nat :=
  readBelow? word64 (match s.toList with
    | '+' :: cs => cs
    | cs => cs)

/-- The value of a pair of flags that exclude each other. -/
def eitherFlag (g : GivenOptions) (yes no : String) : Option (Option Bool) :=
  match g.has yes, g.has no with
  | true, true => none
  | true, false => some (some true)
  | false, true => some (some false)
  | false, false => some none

/-- A count given as an option; zero if it is not given. -/
def countOption (g : GivenOptions) (name : String) : Option Nat :=
  match g.value? name with
  | none => some 0
  | some s => readCount? s

/-- The search that options and operands ask for. The user may come from the environment. -/
def SearchArguments.of? (environment : List (String × String)) (g : GivenOptions)
    (operands : List String) : Option SearchArguments := do
  let query ← match operands with
    | [] => some ""
    | [query] => some query
    | _ => none
  return {
    query
    user := ← (g.value? "user").or (environment.lookup "MAILSIFT_USER")
    sender := g.value? "from"
    subject := g.value? "subject"
    since := g.value? "since"
    untilDay := g.value? "until"
    hasAttachments := ← eitherFlag g "has-attachments" "no-attachments"
    isRead := ← eitherFlag g "read" "unread"
    starred := g.has "starred"
    accounts := g.values "account"
    labels := g.values "label"
    limit := ← countOption g "limit"
    offset := ← countOption g "offset" }

/-- The command of a name, given its options and operands. -/
def Command.of? (environment : List (String × String)) (name : String) (g : GivenOptions)
    (operands : List String) : Option Command :=
  match name, operands with
  | "search", operands => (SearchArguments.of? environment g operands).map search
  | "parse", [query] => some (parse query)
  | "operators", [] => some operators
  | "stats", [] => some stats
  | _, _ => none

/-- The options that may stand after a command. -/
def Command.options? (name : String) : Option (List OptionSpec) :=
  if name = "search" then some MailSearch.searchOptions
  else if ["parse", "operators", "stats"].contains name then some commonOptions
  else none

/-- The path given for an option before the command or after it, or else the one that stands in for
it. A path is not empty, wherever it is given. -/
def pathOption (name : String) (fallback : Option String) (before after : GivenOptions) :
    Option (Option String) :=
  let first := (before.value? name).or fallback
  let second := (after.value? name).or fallback
  if first = some "" ∨ second = some "" then none
  else some ((after.value? name).or first)

/-- What the arguments ask for, given the variables of the environment. -/
def Request.ofArguments (environment : List (String × String)) (arguments : List String) :
    Request :=
  match readArguments mainOptions true false none {} [] arguments with
  | .version => version
  | .help => help
  | .done before [name] rest =>
    if name = "help" then help
    else match Command.options? name with
    | none => usageError
    | some specs =>
      match readArguments specs false false none {} [] rest with
      | .version => version
      | .help => help
      | .done after operands _ =>
        match Command.of? environment name after operands,
          pathOption "config" none before after,
          pathOption "db" (environment.lookup "MAILSIFT_DB") before after with
        | some command, some config, some database =>
          run ⟨before.has "json" || after.has "json", config, database⟩ command
        | _, _, _ => usageError
      | .refused => usageError
  | _ => usageError

end MailSearch
