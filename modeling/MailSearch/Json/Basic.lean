/-!
# JSON values

`Json` is a JSON document. Whole numbers are kept as integers and all other numbers as they were
written, since nothing here computes with them. The fields of an object keep their order, and may
repeat a name.
-/

namespace MailSearch

/-- A JSON value. -/
inductive Json where
  | null
  | bool (value : Bool)
  | integer (value : Int)
  /-- A number that is not written as an integer, in its written form. -/
  | decimal (written : String)
  | text (value : String)
  | list (items : List Json)
  | object (fields : List (String × Json))
  deriving Inhabited, Repr

namespace Json

/-- A text, or `null` for none. -/
def ofText? : Option String → Json
  | none => null
  | some s => text s

/-- A number, or `null` for none. -/
def ofNat? : Option Nat → Json
  | none => null
  | some n => integer n

/-- A truth value, or `null` for none. -/
def ofBool? : Option Bool → Json
  | none => null
  | some b => bool b

/-- A list of texts. -/
def ofTexts (values : List String) : Json := list (values.map text)

/-- The first field of an object with a name. -/
def get? : Json → String → Option Json
  | object fields, name => fields.lookup name
  | _, _ => none

/-- The text of a text value. -/
def asText? : Json → Option String
  | text s => some s
  | _ => none

/-- The truth value of a boolean. -/
def asBool? : Json → Option Bool
  | bool b => some b
  | _ => none

/-- The items of a list. -/
def asList? : Json → Option (List Json)
  | list items => some items
  | _ => none

/-- The texts of a list that holds nothing else. -/
def asTexts? (v : Json) : Option (List String) := v.asList?.bind (·.mapM asText?)

/-- A number that fits into 64 bits without a sign. -/
def asWord? : Json → Option Nat
  | integer n => if 0 ≤ n ∧ n < 18446744073709551616 then some n.toNat else none
  | _ => none

/-- What a reader finds, with `null` read as nothing. -/
def orNull {α : Type} (read : Json → Option α) : Json → Option (Option α)
  | null => some none
  | v => (read v).map some

end Json

end MailSearch
