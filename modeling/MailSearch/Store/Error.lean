import MailSearch.Calendar.Reading
import MailSearch.Store.Cell

/-!
# Store errors

Why a store refuses an operation (`StoreError`), in words (`StoreError.message`), and the area that
the error belongs to (`StoreError.area`).
-/

namespace MailSearch

open Calendar Text

/-- Why the tables of a store cannot be brought up to date. -/
inductive MigrationError where
  /-- The version is not stored as a text. -/
  | unreadable
  /-- The stored version is not a number. -/
  | notANumber (raw : String)
  /-- The store was made by a later program. -/
  | tooNew (found supported : Nat)
  deriving DecidableEq, Repr

/-- The reason in words. -/
def MigrationError.message : MigrationError → String
  | unreadable => "read current schema version"
  | notANumber raw => "invalid schema version in store: " ++ raw
  | tooNew found supported =>
    "store schema version " ++ String.ofList (decimal found) ++
      " is newer than supported version " ++ String.ofList (decimal supported)

/-- Why a store refuses an operation. -/
inductive StoreError where
  | noSuchTable (table : String)
  | noSuchColumn (column : String)
  /-- A column that must hold a value would hold none. -/
  | missingValue (table column : String)
  /-- Two rows of a table would have one key. -/
  | duplicateKey (table column : String)
  /-- A row would speak of one that does not exist. -/
  | foreignKey
  /-- A stored list is not JSON. -/
  | malformedJson
  /-- A value that is not text was to be folded. -/
  | notFoldable (found : CellType)
  /-- A column holds a value of the wrong kind. -/
  | wrongType (found : CellType) (index : Nat) (column : String)
  /-- A stored text of that many bytes is not a point in time. -/
  | badTimestamp (bytes : Nat) (cause : TimestampError)
  /-- The size of an attachment does not fit its column. -/
  | attachmentTooLarge (id : String)
  | migration (cause : MigrationError)
  /-- The expressions of a statement are nested too deeply. -/
  | tooDeep (limit : Nat)
  /-- A statement has too many parameters. -/
  | tooManyParams
  /-- A pattern is too long to be matched. -/
  | patternTooLong
  /-- The store does not answer. -/
  | refused (reason : String)
  deriving DecidableEq, Repr

/-- The areas of errors. -/
inductive ErrorArea where
  | database
  | configuration
  deriving DecidableEq, Repr

namespace StoreError

/-- The error in words. -/
def message : StoreError → String
  | noSuchTable table => "no such table: " ++ table
  | noSuchColumn column => "no such column: " ++ column
  | missingValue table column => "NOT NULL constraint failed: " ++ table ++ "." ++ column
  | duplicateKey table column => "UNIQUE constraint failed: " ++ table ++ "." ++ column
  | foreignKey => "FOREIGN KEY constraint failed"
  | malformedJson => "malformed JSON"
  | notFoldable found => "Invalid function parameter type " ++ found.name ++ " at index 0"
  | wrongType found index column =>
    "Invalid column type " ++ found.name ++ " at index: " ++ String.ofList (decimal index) ++
      ", name: " ++ column
  | badTimestamp bytes cause =>
    "Conversion error from type Text at index: " ++ String.ofList (decimal bytes) ++ ", " ++
      cause.message
  | attachmentTooLarge id => "attachment " ++ id ++ " too large"
  | migration cause => "migration failed: " ++ cause.message
  | tooDeep limit =>
    "Expression tree is too large (maximum depth " ++ String.ofList (decimal limit) ++ ")"
  | tooManyParams => "too many SQL variables"
  | patternTooLong => "LIKE or GLOB pattern too complex"
  | refused reason => reason

/-- The area of an error. -/
def area : StoreError → ErrorArea
  | attachmentTooLarge _ | migration _ | refused _ => .configuration
  | _ => .database

end StoreError

end MailSearch
