/-!
# TOML values

`Toml` is what a document holds. Fractional numbers are told from integers but not kept, and nor are
dates and times: nothing here asks for their values.

Tables grow while a document is read. `TableForm` says how a table came about, which decides
whether more may be added to it.
-/

namespace MailSearch

/-- How a table came about. -/
inductive TableForm where
  /-- By a header of its own. -/
  | headed
  /-- By the header of a table within it. -/
  | implied
  /-- By a key with points. -/
  | dotted
  /-- In braces, as a value; nothing can be added. -/
  | closed
  deriving DecidableEq, Repr

/-- A value of a TOML document. -/
inductive Toml where
  | text (value : String)
  | integer (value : Int)
  | fraction
  | bool (value : Bool)
  | moment
  | list (items : List Toml)
  | table (form : TableForm) (entries : List (String × Toml))
  /-- Tables under one header, which repeats. -/
  | tables (items : List Toml)
  deriving Inhabited, Repr

/-- Whether a key with points may lead through a table. -/
def TableForm.opensToKeys : TableForm → Bool
  | implied | dotted => true
  | _ => false

namespace Toml

/-! ## Growing tables -/

/-- Entries with a change of the entry of a key, which may be absent. -/
def alter (key : String) (change : Option Toml → Option Toml) :
    List (String × Toml) → Option (List (String × Toml))
  | [] => (change none).map fun v => [(key, v)]
  | (name, v) :: rest =>
    if name = key then (change (some v)).map fun v => (name, v) :: rest
    else (alter key change rest).map ((name, v) :: ·)

/-- Changes the table at the end of a path. Tables on the way are made as needed, and the path leads
through the last of repeated tables. With `byKey` the path is that of a key, which cannot lead
through a table that has a header. -/
def alterAt (byKey : Bool) :
    List String → (Toml → Option Toml) → Toml → Option Toml
  | [], change, t => change t
  | key :: path, change, table form entries =>
    (alter key (fun
      | none => alterAt byKey path change (table (if byKey then .dotted else .implied) [])
      | some (table inner entries) =>
        if inner = .closed ∨ (byKey ∧ !inner.opensToKeys) then none
        else alterAt byKey path change (table inner entries)
      | some (tables items) =>
        match items.getLast? with
        | some last => (alterAt byKey path change last).map fun t => tables (items.dropLast ++ [t])
        | none => none
      | some _ => none) entries).map (table form)
  | _, _, _ => none

/-- A table with a new entry. A key with points can only add to a table that it made. -/
def addEntry (byPath : Bool) (key : String) (v : Toml) : Toml → Option Toml
  | table form entries =>
    if decide (form = .dotted) != byPath then none
    else (alter key (fun
      | none => some v
      | some _ => none) entries).map (table form)
  | _ => none

/-- A table with a new entry under a key with points. -/
def addKey (key : List String) (v : Toml) (t : Toml) : Option Toml :=
  match key.getLast? with
  | none => none
  | some last => alterAt true key.dropLast (addEntry (key.length ≠ 1) last v) t

/-- A document with the table that a header opens. -/
def openTable (header : List String) (t : Toml) : Option Toml :=
  match header.getLast? with
  | none => none
  | some last => alterAt false header.dropLast (fun
    | table form entries => (alter last (fun
        | none => some (table .headed [])
        | some (table .implied inner) => some (table .headed inner)
        | some _ => none) entries).map (table form)
    | _ => none) t

/-- A document with the table that a repeated header opens. -/
def openRepeated (header : List String) (t : Toml) : Option Toml :=
  match header.getLast? with
  | none => none
  | some last => alterAt false header.dropLast (fun
    | table form entries => (alter last (fun
        | none => some (tables [table .headed []])
        | some (tables items) => some (tables (items ++ [table .headed []]))
        | some _ => none) entries).map (table form)
    | _ => none) t

end Toml

end MailSearch
