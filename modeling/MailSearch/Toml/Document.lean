import MailSearch.Toml.Scalar

/-!
# TOML documents

`Toml.read?` is the table that a document writes, if it is TOML 1.0. Keys and values nest less
deeply than `maxDepth`.

A document is read line by line. A header opens a table, and the keys after it go there; a table is
opened once, and a key is given once.
-/

namespace MailSearch.Toml

open Text

/-! ## Values -/

mutual

/-- Reads a value. `fuel` bounds the calls and `depth` the brackets and braces around the value. -/
def readValue? : (fuel depth : Nat) → List Char → Option (Toml × List Char)
  | 0, _, _ => none
  | fuel + 1, depth, cs =>
    match cs with
    | '[' :: rest =>
      if depth + 1 < maxDepth then
        (readItems? fuel (depth + 1) rest).map fun (items, rest) => (list items, rest)
      else none
    | '\x7b' :: rest =>
      if depth + 1 < maxDepth then
        match skipSpace rest with
        | '\x7d' :: rest => some (table .closed [], rest)
        | rest => (readEntries? fuel (depth + 1) (table .headed []) rest)
      else none
    | 't' :: 'r' :: 'u' :: 'e' :: rest => some (bool true, rest)
    | 'f' :: 'a' :: 'l' :: 's' :: 'e' :: rest => some (bool false, rest)
    | '"' :: _ => (readString? cs).map fun (s, rest) => (text (String.ofList s), rest)
    | '\'' :: _ => (readString? cs).map fun (s, rest) => (text (String.ofList s), rest)
    | _ => readScalar? cs

/-- Reads the items of a list up to its closing bracket. A comma may follow the last. -/
def readItems? : (fuel depth : Nat) → List Char → Option (List Toml × List Char)
  | 0, _, _ => none
  | fuel + 1, depth, cs =>
    match skipFill false cs with
    | ']' :: rest => some ([], rest)
    | cs => do
      let (v, rest) ← readValue? fuel depth cs
      match skipFill false rest with
      | ',' :: rest => (readItems? fuel depth rest).map fun (items, rest) => (v :: items, rest)
      | ']' :: rest => some ([v], rest)
      | _ => none

/-- Reads the entries of a table up to its closing brace, all on one line. -/
def readEntries? : (fuel depth : Nat) → Toml → List Char → Option (Toml × List Char)
  | 0, _, _, _ => none
  | fuel + 1, depth, t, cs => do
    let (key, rest) ← readKey? (maxDepth - 1) cs
    let rest ← readChar? '=' rest
    let (v, rest) ← readValue? fuel depth (skipSpace rest)
    let t ← addKey key v t
    match skipSpace rest, t with
    | ',' :: rest, t => readEntries? fuel depth t rest
    | '\x7d' :: rest, table _ entries => some (table .closed entries, rest)
    | _, _ => none

end

/-- Reads a key with its value. -/
def readEntry? (cs : List Char) : Option ((List String × Toml) × List Char) := do
  let (key, rest) ← readKey? (maxDepth - 1) cs
  let rest ← readChar? '=' rest
  let rest := skipSpace rest
  let (v, rest) ← readValue? (2 * rest.length + 2) 0 rest
  return ((key, v), rest)

/-! ## Lines -/

/-- Reads a header after its first bracket: whether it repeats, and its key. -/
def readHeader? (cs : List Char) : Option ((Bool × List String) × List Char) :=
  match cs with
  | '[' :: rest => do
    let (key, rest) ← readKey? (maxDepth - 1) rest
    match rest with
    | ']' :: ']' :: rest => some ((true, key), rest)
    | _ => none
  | rest => do
    let (key, rest) ← readKey? (maxDepth - 1) rest
    match rest with
    | ']' :: rest => some ((false, key), rest)
    | _ => none

/-- Reads the lines of a document into a table; `header` is the path of the table that keys go to.
`fuel` bounds the lines. -/
def readLines? : (fuel : Nat) → (header : List String) → Toml → List Char → Option Toml
  | 0, _, _, _ => none
  | fuel + 1, header, t, cs =>
    match skipSpace cs with
    | [] => some t
    | '[' :: rest => do
      let ((repeated, key), rest) ← readHeader? rest
      let rest ← lineEnd? rest
      let t ← if repeated then openRepeated key t else openTable key t
      readLines? fuel key t rest
    | c :: rest =>
      match lineEnd? (c :: rest) with
      | some rest => readLines? fuel header t rest
      | none => do
        let ((key, v), rest) ← readEntry? (c :: rest)
        let rest ← lineEnd? rest
        let t ← alterAt false header (addKey key v) t
        readLines? fuel header t rest

/-- The table that a document writes. A byte order mark may come first. -/
def read? (s : String) : Option Toml :=
  let cs := match s.toList with
    | '\ufeff' :: cs => cs
    | cs => cs
  readLines? (cs.length + 1) [] (table .headed []) cs

end MailSearch.Toml
