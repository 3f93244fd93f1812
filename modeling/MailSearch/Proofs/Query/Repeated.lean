import MailSearch.Proofs.Query.Negation

/-!
# Repeated operators

A query that gives one operator again and again, each time with a value, lists these values: each
once, in order of first mention, and nothing else (`ParsedQuery.parse_repeatedQuery`). This holds of
the operators that collect values (`Operator.lists`). The others keep only the last one.
-/

namespace MailSearch

open Calendar

/-- The query that gives an operator once for each value. -/
def repeatedQuery (op : Operator) (values : List String) : String :=
  " ".intercalate (values.map (termQuery false op))

/-- Whether the operator collects the values of its terms. -/
def Operator.lists : Operator → Bool
  | .before | .after | .olderThan | .newerThan | .larger | .smaller => false
  | _ => true

theorem repeatedQuery_singleton (op : Operator) (value : String) :
    repeatedQuery op [value] = termQuery false op value :=
  String.intercalate_singleton

/-- Such a query is a sentence of its terms. -/
theorem sentence_repeatedQuery (op : Operator) {values : List String}
    (h : ∀ value ∈ values, IsBareValue value) :
    Token.Sentence (values.map fun value =>
        .term false op.keyword.toList op (.bare value.toList))
      (repeatedQuery op values).toList := by
  induction values with
  | nil => exact .nil
  | cons value values ih =>
    have hterm := (h value List.mem_cons_self).grammatical false op
    have htail := ih fun v hv => h v (List.mem_cons_of_mem _ hv)
    cases values with
    | nil =>
      rw [repeatedQuery_singleton, source_termQuery]
      exact .last hterm
    | cons next values =>
      have htext : (repeatedQuery op (value :: next :: values)).toList =
          (termQuery false op value).toList ++
            ([' '] ++ (repeatedQuery op (next :: values)).toList) := by
        simp [repeatedQuery, String.intercalate_cons_cons]
      rw [htext, source_termQuery]
      exact .cons hterm (List.cons_ne_nil _ _) Token.isBlank_of_mem_space htail

namespace ParsedQuery

/-- The query that asks for some values of one operator, and for nothing else. -/
def listing (op : Operator) (values : List String) : ParsedQuery :=
  match op with
  | .sender => { wanted := { sender := values } }
  | .recipient => { wanted := { recipient := values } }
  | .subject => { wanted := { subject := values } }
  | .has => { wanted := { has := values } }
  | .status => { wanted := { status := values } }
  | .cc => { cc := values }
  | .bcc => { bcc := values }
  | .folder => { folders := values }
  | .label => { labels := values }
  | .filename => { filenames := values }
  | .before | .after | .olderThan | .newerThan | .larger | .smaller => {}

variable {op : Operator} (hop : op.lists = true) (now : Timestamp)
include hop

/-- One more term lists its value, if it is not there. -/
theorem step_listing (values : List String) (keyword value : List Char) :
    (listing op values).step now (.term false keyword op (.bare value)) =
      listing op (addOnce (String.ofList value) values) := by
  cases op with
  | sender | recipient | subject | has | status => rfl
  | cc | bcc | folder | label | filename => rfl
  | before | after | olderThan | newerThan | larger | smaller => cases hop

/-- All terms list their values. -/
theorem foldl_step_listing (keyword : List Char) (values : List String) :
    (values.map fun value => Token.term false keyword op (.bare value.toList)).foldl (step now) {} =
      listing op values.eraseDups := by
  induction values using List.reverseRecOn with
  | nil =>
    rw [List.map_nil, List.foldl_nil, List.eraseDups_nil]
    cases op <;> rfl
  | append_singleton values value ih =>
    rw [List.map_append, List.foldl_append, ih, List.map_singleton, List.foldl_cons,
      List.foldl_nil, step_listing hop, String.ofList_toList, eraseDups_concat]

/-- **Repeated operators.** The query lists each value once, in order of first mention. -/
theorem parse_repeatedQuery {values : List String} (h : ∀ value ∈ values, IsBareValue value) :
    parse now (repeatedQuery op values) = listing op values.eraseDups := by
  have hnone {text? : Token → Option String}
      (hterm : ∀ negated keyword op value, text? (.term negated keyword op value) = none) :
      (values.map fun value =>
        Token.term false op.keyword.toList op (.bare value.toList)).filterMap text? = [] := by
    simp [List.filterMap_map, hterm]
  rw [parse, (sentence_repeatedQuery op h).scan, ofTokens, foldl_step_listing hop,
    hnone fun _ _ _ _ => rfl, hnone fun _ _ _ _ => rfl]
  cases op <;> rfl

end ParsedQuery

end MailSearch
