import MailSearch.Query.Operator
import MailSearch.Text.Blank

/-!
# Query tokens

A query is cut into tokens from left to right, with blanks between them:

* a phrase is closed by a second quote and not empty: `"annual report"`;
* a term is an operator's keyword, perhaps after a minus, a colon, and a value that runs to the
  next blank; a term at a blank or at the end has no value, and some operators take a phrase;
* everything else is a word, which ends at a blank or before a phrase.

A token keeps all that was written, so `Token.source` gives its text back. `Token.scan` is the
list of the tokens of a query.
-/

namespace MailSearch

open Text

/-- What stands after the colon of a term. -/
inductive TermValue where
  | missing
  | bare (value : List Char)
  | phrase (content : List Char)
  deriving DecidableEq, Repr

/-- A token of a query. -/
inductive Token where
  | word (source : List Char)
  | phrase (content : List Char)
  | term (negated : Bool) (keyword : List Char) (op : Operator) (value : TermValue)
  deriving DecidableEq, Repr

/-- The text of a value. -/
def TermValue.content? : TermValue → Option (List Char)
  | missing => none
  | bare value => some value
  | phrase content => some content

/-- A value as it was written. -/
def TermValue.source : TermValue → List Char
  | missing => []
  | bare value => value
  | phrase content => '"' :: (content ++ ['"'])

namespace Token

/-- A token as it was written. -/
def source : Token → List Char
  | word source => source
  | phrase content => '"' :: (content ++ ['"'])
  | term negated keyword _ value =>
    (if negated then ['-'] else []) ++ keyword ++ ':' :: value.source

/-- Whether the character ends a phrase. -/
def isQuote (c : Char) : Bool := c = '"'

/-- The content of the phrase that the text starts with, and the rest after its closing quote. -/
def closedPhrase? : List Char → Option (List Char × List Char)
  | '"' :: cs =>
    match cs.takeWhile (!isQuote ·), cs.dropWhile (!isQuote ·) with
    | c :: content, _ :: rest => some (c :: content, rest)
    | _, _ => none
  | _ => none

/-- The text up to the next blank, and the rest. -/
def bareRun (cs : List Char) : List Char × List Char :=
  (cs.takeWhile (!isBlank ·), cs.dropWhile (!isBlank ·))

/-- The text up to the next blank or phrase, and the rest. -/
def wordRun : List Char → List Char × List Char
  | [] => ([], [])
  | c :: cs =>
    if isBlank c || (closedPhrase? (c :: cs)).isSome then ([], c :: cs)
    else
      let (run, rest) := wordRun cs
      (c :: run, rest)

/-- Whether the character can stand in a keyword. -/
def isKeywordChar (c : Char) : Bool := c.isAlpha || c = '_'

/-- The start of a term: whether it is negated, its keyword and operator, and the text after the
colon. -/
def termStart? (cs : List Char) : Option (Bool × List Char × Operator × List Char) :=
  let (negated, body) := match cs with
    | '-' :: body => (true, body)
    | body => (false, body)
  match body.dropWhile isKeywordChar with
  | ':' :: rest =>
    let keyword := body.takeWhile isKeywordChar
    (Operator.ofKeyword? keyword).map fun op => (negated, keyword, op, rest)
  | _ => none

/-- The value of a term that starts the text, and the rest. -/
def termValue (op : Operator) : List Char → TermValue × List Char
  | [] => (.missing, [])
  | c :: cs =>
    if isBlank c then (.missing, c :: cs)
    else match (if op.takesPhrase then closedPhrase? (c :: cs) else none) with
      | some (content, rest) => (.phrase content, rest)
      | none =>
        let (value, rest) := bareRun (c :: cs)
        (.bare value, rest)

/-- The token that a text starts with, and the rest. The text is given by its first character,
which is no blank, and what follows. -/
def first (c : Char) (cs : List Char) : Token × List Char :=
  match closedPhrase? (c :: cs) with
  | some (content, rest) => (phrase content, rest)
  | none =>
    match termStart? (c :: cs) with
    | some (negated, keyword, op, rest) =>
      let (value, rest) := termValue op rest
      (term negated keyword op value, rest)
    | none =>
      let (run, rest) := wordRun cs
      (word (c :: run), rest)

/-! ## Nothing is lost -/

theorem closedPhrase?_eq {cs content rest : List Char}
    (h : closedPhrase? cs = some (content, rest)) : cs = '"' :: (content ++ '"' :: rest) := by
  unfold closedPhrase? at h
  split at h
  · rename_i cs
    split at h
    · rename_i c content d rest hc hd
      cases h
      have hq : isQuote d = true := by
        have := List.head?_dropWhile_not (p := (!isQuote ·)) (l := cs)
        rw [hd] at this
        simpa using this
      have hd' : d = '"' := by simpa [isQuote] using hq
      have := List.takeWhile_append_dropWhile (p := (!isQuote ·)) (l := cs)
      rw [hc, hd, hd'] at this
      rw [← this]
    · cases h
  · cases h

theorem wordRun_append (cs : List Char) : (wordRun cs).1 ++ (wordRun cs).2 = cs := by
  induction cs with
  | nil => rfl
  | cons c cs ih =>
    unfold wordRun
    split
    · rfl
    · simp [ih]

/-- The start of a term is its minus, if it has one, an operator's keyword and a colon. -/
theorem termStart?_eq_some {cs keyword rest : List Char} {negated : Bool} {op : Operator}
    (h : termStart? cs = some (negated, keyword, op, rest)) :
    Operator.ofKeyword? keyword = some op ∧
      cs = (if negated then ['-'] else []) ++ keyword ++ ':' :: rest := by
  unfold termStart? at h
  have key : ∀ {b : Bool} {body : List Char},
      (match body.dropWhile isKeywordChar with
        | ':' :: rest =>
          (Operator.ofKeyword? (body.takeWhile isKeywordChar)).map fun op =>
            (b, body.takeWhile isKeywordChar, op, rest)
        | _ => none) = some (negated, keyword, op, rest) →
      b = negated ∧ Operator.ofKeyword? keyword = some op ∧ body = keyword ++ ':' :: rest := by
    intro b body h
    split at h
    · rename_i rest' hd
      obtain ⟨op', hop, h⟩ := Option.map_eq_some_iff.1 h
      cases h
      refine ⟨rfl, hop, ?_⟩
      have := List.takeWhile_append_dropWhile (p := isKeywordChar) (l := body)
      rw [hd] at this
      exact this.symm
    · cases h
  split at h
  rename_i x b body hx
  obtain ⟨rfl, hop, hb⟩ := key h
  refine ⟨hop, ?_⟩
  split at hx <;> cases hx <;> simp [hb]

theorem termValue_append (op : Operator) (cs : List Char) :
    (termValue op cs).1.source ++ (termValue op cs).2 = cs := by
  unfold termValue
  split
  · rfl
  · split
    · rfl
    · split
      · rename_i h
        split at h
        · simp [TermValue.source, closedPhrase?_eq h]
        · cases h
      · simp [TermValue.source, bareRun]

/-- A token and the rest make up the text. -/
theorem first_append (c : Char) (cs : List Char) :
    (first c cs).1.source ++ (first c cs).2 = c :: cs := by
  unfold first
  split
  · rename_i h
    simp [source, closedPhrase?_eq h]
  · split
    · rename_i negated keyword op rest h
      have := termValue_append op rest
      simp [source, (termStart?_eq_some h).2, this]
    · simp [source, wordRun_append]

theorem source_ne_nil (c : Char) (cs : List Char) : (first c cs).1.source ≠ [] := by
  unfold first
  split
  · simp [source]
  · split <;> simp [source]

theorem first_shorter (c : Char) (cs : List Char) : (first c cs).2.length < (c :: cs).length := by
  have h := congrArg List.length (first_append c cs)
  have h' := List.length_pos_iff.2 (source_ne_nil c cs)
  simp only [List.length_append] at h
  omega

/-- The tokens of a text. -/
def scan (cs : List Char) : List Token :=
  match _h : trimLeft cs with
  | [] => []
  | c :: rest => (first c rest).1 :: scan (first c rest).2
termination_by cs.length
decreasing_by
  have h1 := first_shorter c rest
  have h2 := trimLeft_length_le cs
  rw [_h] at h2
  omega

end Token

end MailSearch
