import MailSearch.Json.Basic

/-!
# Records in JSON

A record is written as an object with a field for each member, or as a list of the members in
order. `Record.ofJson?` reads either form, given the names of the members, and the accessors read
single members. In an object unknown fields are passed over, a field that repeats is refused, and a
member may be absent; a list may end early, but not before its required members.
-/

namespace MailSearch.Json

/-- The members that a record gives, by name. -/
structure Record where
  members : List (String × Json)

namespace Record

/-- The members of a record with the given names, of which a list form must hold the first
`required`. -/
def ofJson? (names : List String) (required : Nat) : Json → Option Record
  | object fields =>
    let known := fields.filter fun field => names.contains field.1
    if (known.map Prod.fst).Nodup then some ⟨known⟩ else none
  | list items =>
    if required ≤ items.length ∧ items.length ≤ names.length then some ⟨names.zip items⟩ else none
  | _ => none

/-- A member that must be there. -/
def need? {α : Type} (r : Record) (name : String) (read : Json → Option α) : Option α :=
  (r.members.lookup name).bind read

/-- A member that has a default. -/
def getD? {α : Type} (r : Record) (name : String) (read : Json → Option α) (default : α) :
    Option α :=
  match r.members.lookup name with
  | none => some default
  | some v => read v

/-- A member that may be absent or `null`. -/
def opt? {α : Type} (r : Record) (name : String) (read : Json → Option α) : Option (Option α) :=
  r.getD? name (orNull read) none

end Record

end MailSearch.Json
