import MailSearch.Config.Basic
import MailSearch.Toml.Document

/-!
# Reading the configuration

`Config.read?` reads the settings from a TOML document. Every part may be left out, and unknown keys
are passed over; a value of the wrong kind makes the document unreadable.
-/

namespace MailSearch

namespace Toml

/-- The text of a text value. -/
def asText? : Toml → Option String
  | text s => some s
  | _ => none

/-- The number of an integer that is not negative. -/
def asNat? : Toml → Option Nat
  | integer n => if 0 ≤ n then some n.toNat else none
  | _ => none

/-- The members of a section, given their names. A section can also be a list of its members in
order, and a date or time is a section without any. -/
def members? (names : List String) : Toml → Option (List (String × Toml))
  | table _ entries => some entries
  | list items => some (names.zip items)
  | moment => some []
  | tables items => some (names.zip items)
  | _ => none

/-- The section of a document with a name. -/
def section? (name : String) (names : List String) (entries : List (String × Toml)) :
    Option (List (String × Toml)) :=
  match entries.lookup name with
  | none => some []
  | some v => v.members? names

/-- A member of a section, or what stands for one left out. -/
def memberD {α : Type} (entries : List (String × Toml)) (name : String) (read : Toml → Option α)
    (default : α) : Option α :=
  match entries.lookup name with
  | none => some default
  | some v => read v

end Toml

namespace Config

open Toml

/-- The settings that a document gives. -/
def ofToml? (document : Toml) : Option Config := do
  let entries ← document.members? []
  let storage ← section? "storage" ["database_path"] entries
  let search ← section? "search"
    ["default_limit", "max_limit", "cache_ttl_secs", "cache_namespace"] entries
  let suggestions ← section? "suggestions" ["pool_size", "max_suggestions"] entries
  let logging ← section? "logging" ["level"] entries
  let base : Config := {}
  return {
    storage := {
      databasePath := ← memberD storage "database_path" (fun v => v.asText?.map some) none }
    search := {
      defaultLimit := ← memberD search "default_limit" asNat? base.search.defaultLimit
      maxLimit := ← memberD search "max_limit" asNat? base.search.maxLimit
      cacheTtlSecs := ← memberD search "cache_ttl_secs" asNat? base.search.cacheTtlSecs
      cacheNamespace := ← memberD search "cache_namespace" asText? base.search.cacheNamespace }
    suggestions := {
      poolSize := ← memberD suggestions "pool_size" asNat? base.suggestions.poolSize
      maxSuggestions := ← memberD suggestions "max_suggestions" asNat?
        base.suggestions.maxSuggestions }
    logging := { level := ← memberD logging "level" asText? base.logging.level } }

/-- The settings that a text gives. -/
def read? (s : String) : Option Config := (Toml.read? s).bind ofToml?

end Config

end MailSearch
