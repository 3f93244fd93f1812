import MailSearch.CommandLine.Arguments
import MailSearch.CommandLine.Host
import MailSearch.Report.Format

/-!
# Running a command

`Host.run` carries out what the arguments ask for. A command writes its report, or one line that
says why it failed. The first thing that fails ends the command: the database is opened before the
days of a search are read.
-/

namespace MailSearch

open Calendar Text

/-- What a run of the program comes to: its exit code, its output, and what it says of a failure. -/
structure Outcome where
  code : Nat
  output : String
  failure : Option String := none
  deriving DecidableEq, Repr

/-- The name and version of the program. -/
def versionText : String := "mailsift 0.1.0"

/-- What the program can be asked to do. -/
def usageText : String :=
  "Usage: mailsift [--json] [--config PATH] [--db PATH] COMMAND\n\n" ++
  "Commands:\n" ++
  "  search     Search one user's messages\n" ++
  "  parse      Show how a query string is interpreted\n" ++
  "  operators  List supported search operators\n" ++
  "  stats      Show store statistics"

namespace Outcome

/-- A run that writes a report. -/
def report (text : String) : Outcome := ⟨0, text ++ "\n", none⟩

/-- A run that fails. -/
def failed (reason : String) : Outcome := ⟨1, "", some ("Error: " ++ reason)⟩

/-- A run with arguments that make no sense. -/
def usageError : Outcome := ⟨2, "", some usageText⟩

end Outcome

/-- The day given for an option, if one is given. -/
def readDayOption (label : String) : Option String → Except String (Option Date)
  | none => .ok none
  | some value =>
    match readDateArgument? value with
    | some d => .ok (some d)
    | none =>
      .error ("invalid --" ++ label ++ " date '" ++ value ++ "', expected YYYY-MM-DD")

/-- A list that counts as not given when it is empty. -/
def unlessEmpty (values : List String) : Option (List String) :=
  if values.isEmpty then none else some values

/-- The options of the search that is asked for. -/
def SearchArguments.options (a : SearchArguments) : Except String SearchOptions := do
  let dateFrom ← readDayOption "since" a.since
  let dateTo ← readDayOption "until" a.untilDay
  return {
    query := if trim a.query.toList = [] then none else some a.query
    fromEmail := a.sender
    subject := a.subject
    dateFrom, dateTo
    hasAttachments := a.hasAttachments
    isRead := a.isRead
    isStarred := if a.starred then some true else none
    accountIds := unlessEmpty a.accounts
    labels := unlessEmpty a.labels
    limit := a.limit
    offset := a.offset }

/-- Searches a database, with an empty cache. -/
def Database.search (db : Database) (config : Config) (now : Timestamp) (userId : String)
    (o : SearchOptions) : Except SearchError SearchResult :=
  let service : SearchService MemoryCache :=
    ⟨db.source, .memory, config.search, config.suggestions⟩
  (service.run ⟨now, 0⟩ userId o {}).1

/-- The outcome of a search of a database. -/
def SearchArguments.outcome (a : SearchArguments) (db : Database) (config : Config)
    (format : ReportFormat) (now : Timestamp) : Outcome :=
  match a.options with
  | .error reason => .failed reason
  | .ok o =>
    match db.search config now a.user o with
    | .error _ => .failed "search failed, try again"
    | .ok r => .report (Report.ofResult format now r)

/-- The outcome of a report on a database's size. -/
def statsOutcome (db : Database) (format : ReportFormat) : Outcome :=
  match db.stats with
  | .error _ => .failed "read store statistics"
  | .ok s => .report (Report.ofStats format s)

namespace Host

variable {m : Type → Type} [Monad m] (h : Host m)

/-- Carries out an action on the database that the settings name. -/
def withDatabase (settings : Settings) (config : Config) (action : Database → Outcome) :
    m Outcome := do
  match (settings.database.or config.storage.databasePath).or h.databasePath? with
  | none => return .failed "resolve default mailsift database path"
  | some path =>
    match ← h.openDatabase path with
    | none => return .failed ("open mailsift database at " ++ path)
    | some db => return action db

/-- Carries out a command. -/
def runCommand (settings : Settings) (now : Timestamp) (command : Command) : m Outcome := do
  let config ← h.loadConfig settings.config
  let format : ReportFormat := if settings.json then .json else .table
  match command with
  | .search a => h.withDatabase settings config fun db => a.outcome db config format now
  | .parse query => return .report (Report.ofQuery format (ParsedQuery.parse now query))
  | .operators => return .report (Report.ofHelp format)
  | .stats => h.withDatabase settings config fun db => statsOutcome db format

/-- Carries out what the arguments ask for. -/
def run (now : Timestamp) (arguments : List String) : m Outcome :=
  match Request.ofArguments h.environment arguments with
  | .run settings command => h.runCommand settings now command
  | .version => return .report versionText
  | .help => return .report usageText
  | .usageError => return .usageError

end Host

end MailSearch
