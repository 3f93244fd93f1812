import MailSearch.Config.Reading
import MailSearch.Store.Database

/-!
# The host

What the program sees of the computer that it runs on: variables of the environment, and what stands
at a place (`Entry`). A path leads to a place (`Place.ofPath`).

* `Host.readConfig` reads the settings: from a path that is given, or from the standard places.
* `Host.openDatabase` opens the database at a path. A new one is made where there is nothing yet.
-/

namespace MailSearch

/-- What stands at a path. -/
inductive Entry where
  | missing
  | directory
  /-- A file, with its content if that is text. -/
  | file (content : Option String)
  /-- A file that holds a database. -/
  | database (db : Database)

/-- Whether an entry is a file, below which there is nothing. -/
def Entry.isFile : Entry → Bool
  | file _ | database _ => true
  | _ => false

/-! ## Paths -/

/-- A place: the names that lead to it from the root. -/
abbrev Place := List String

/-- The place that a name leads to from a place. -/
def Place.step (place : Place) (name : String) : Place :=
  if name = "" ∨ name = "." then place
  else if name = ".." then place.dropLast
  else place ++ [name]

/-- The places that names lead through, one after the other, from a place on. -/
def Place.walk (place : Place) : List String → List Place
  | [] => [place]
  | name :: rest => place :: Place.walk (place.step name) rest

/-- The place at which a path starts. -/
def Place.start (workDir : Place) (path : String) : Place :=
  if path.toList.head? = some '/' then [] else workDir

/-- The place that a path leads to. -/
def Place.ofPath (workDir : Place) (path : String) : Place :=
  (path.splitOn "/").foldl Place.step (Place.start workDir path)

/-- The places on the way to the last name of a path. Empty names and single dots do not count as
the last. -/
def Place.wayTo (workDir : Place) (path : String) : List Place :=
  let names := ((path.splitOn "/").reverse.dropWhile fun name => name = "" || name = ".").drop 1
  Place.walk (Place.start workDir path) names.reverse

/-- The computer that the program runs on, seen through actions of `m`. -/
structure Host (m : Type → Type) where
  environment : List (String × String)
  workDir : Place
  look : Place → m Entry

/-- Why a configuration cannot be used. -/
inductive ConfigError where
  /-- There is no file at the given path. -/
  | notFound
  /-- The file is no text. -/
  | unreadable
  /-- The text is no configuration. -/
  | malformed
  deriving DecidableEq, Repr

namespace Host

variable {m : Type → Type} [Monad m] (h : Host m)

/-- A variable of the environment. -/
def environmentValue? (name : String) : Option String := h.environment.lookup name

/-- The home directory of the user. -/
def home? : Option String := (h.environmentValue? "HOME").filter (· ≠ "")

/-- A path below a directory. -/
def below (directory : String) (names : List String) : String :=
  String.intercalate "/" (directory :: names)

/-- The directory for the settings of programs. -/
def configDirectory? : Option String :=
  match (h.environmentValue? "XDG_CONFIG_HOME").filter fun s => s.toList.head? = some '/' with
  | some directory => some directory
  | none => h.home?.map (below · [".config"])

/-- The standard place of the settings. -/
def configPath? : Option String :=
  (h.environmentValue? "MAILSIFT_CONFIG").or
    (h.configDirectory?.map (below · ["mailsift", "config.toml"]))

/-- The place of the database, unless configured. -/
def databasePath? : Option String := h.home?.map (below · [".mailsift", "mailsift.db"])

/-- What stands at the end of a way, which leads through directories. -/
def follow : List Place → m Entry
  | [] => return .missing
  | [place] => h.look place
  | place :: rest => do
    match ← h.look place with
    | .directory => follow rest
    | _ => return .missing

/-- What stands at a path. Nothing stands at an empty one. -/
def entryAt (path : String) : m Entry :=
  if path = "" then return .missing
  else h.follow (Place.walk (Place.start h.workDir path) (path.splitOn "/"))

/-- The settings of an entry; where nothing stands, the given outcome. -/
def configOf (ifMissing : Except ConfigError (Option Config)) :
    Entry → Except ConfigError (Option Config)
  | .missing => ifMissing
  | .directory | .file none | .database _ => .error .unreadable
  | .file (some content) =>
    match Config.read? content with
    | some c => .ok (some c)
    | none => .error .malformed

/-- The settings at a path that is given, or at the standard places; there may be none at those. -/
def readConfig (given : Option String) : m (Except ConfigError (Option Config)) :=
  match given with
  | some path => configOf (.error .notFound) <$> h.entryAt path
  | none =>
    match h.configPath? with
    | some path => configOf (.ok none) <$> h.entryAt path
    | none => pure (.ok none)

/-- The settings at a path that is given, or at the standard places. Settings that cannot be used
count as none. -/
def loadConfig (given : Option String) : m Config := do
  match ← h.readConfig given with
  | .ok (some c) => return c
  | _ => return {}

/-- Whether a file stands at one of some places. -/
def anyFile : List Place → m Bool
  | [] => return false
  | place :: rest => do
    if (← h.look place).isFile then return true else anyFile rest

/-- The database at a path, if one is there or can be made there. Directories are made on the way
where nothing stands yet. -/
def openDatabase (path : String) : m (Option Database) := do
  let fresh : Option Database := (Database.migrate {}).toOption
  if path = "" ∨ path = ":memory:" then return fresh
  if ← h.anyFile (Place.wayTo h.workDir path) then return none
  match ← h.look (Place.ofPath h.workDir path) with
  | .database db => return db.migrate.toOption
  | .missing | .file (some "") => return fresh
  | _ => return none

end Host

end MailSearch
