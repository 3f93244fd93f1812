import MailSearch.Proofs.Query.Appending
import MailSearch.Proofs.Query.Suggestions
import MailSearch.Proofs.Search.Agreement

/-!
# One more term

What a search asks for with one more term behind its query, whatever the query is.

* `PredicateSet.holds_append_word_iff`: with one more word, it asks for the messages that satisfied
  it before and have the word in a text.
* `RejectedTerm now term`: the text is a term that cannot be applied.
* `ParsedQuery.parse_append_rejected`: with such a term, it asks for what it asked for before.
-/

namespace MailSearch

open Text Calendar

/-- The predicates of a query and of options. -/
def PredicateSet.ofText (userId : String) (now : Timestamp) (query : String) (o : SearchOptions) :
    PredicateSet :=
  compile userId (some (ParsedQuery.parse now query)) o

/-! ## Words -/

namespace ParsedQuery

/-- A word alone is a text to search for. -/
theorem parse_word (now : Timestamp) {word : String} (h : (Token.word word.toList).Grammatical) :
    parse now word = { texts := [word] } := by
  have hscan : Token.scan word.toList = [.word word.toList] := (Token.Sentence.last h).scan
  rw [parse, hscan]
  simp [ofTokens, step, phraseText?, wordText?]

/-- The query with a word behind it searches for one text more. -/
theorem parse_append_word (now : Timestamp) (query : String) {word : String}
    (h : (Token.word word.toList).Grammatical) :
    parse now (query ++ " " ++ word) =
      { parse now query with texts := (parse now query).texts ++ [word] } := by
  have hscan : Token.scan (Token.word word.toList).source = [.word word.toList] :=
    (Token.Sentence.last h).scan
  have hquote : '"' ∉ (Token.word word.toList).source := by
    cases h with
    | word _ _ hquote _ => exact hquote
  have hparse := parse_append_token now query hquote hscan
  rwa [Token.source, String.ofList_toList, ofTokens_concat_word, String.ofList_toList] at hparse

end ParsedQuery

namespace Predicate

/-- The texts of a query have the last predicate, and no other one. -/
theorem ofQuery_texts (q : ParsedQuery) (texts : List String) :
    ofQuery { q with texts := texts } =
      ofQuery { q with texts := [] } ++ given texts mentions := by
  have hlast : given ({ q with texts := [] } : ParsedQuery).texts mentions = [] :=
    given_nil mentions
  unfold ofQuery
  rw [hlast, List.append_nil]

theorem holds_given_mentions_iff (m : Message) (texts : List String) :
    (∀ p ∈ given texts mentions, p.holds m = true) ↔
      ∀ text ∈ texts, ∃ hay ∈ m.searchedTexts, containsFolded hay text = true := by
  cases texts <;> simp [given, holds]

end Predicate

namespace PredicateSet

section Compile

variable {userId : String} {q : ParsedQuery} {o : SearchOptions}

/-- The predicates of a search are those of the search without a query, and those of its query. -/
theorem forall_mem_compile_iff {P : Predicate → Prop} :
    (∀ p ∈ (compile userId (some q) o).toList, P p) ↔
      (∀ p ∈ (compile userId none o).toList, P p) ∧ ∀ p ∈ Predicate.ofQuery q, P p := by
  have hlist (query : Option ParsedQuery) : (compile userId query o).toList = .ownedBy userId ::
      (Predicate.ofAccounts o ++ (query.map Predicate.ofQuery).getD [] ++ Predicate.ofOptions o) :=
    rfl
  simp only [hlist, Option.map_some, Option.map_none, Option.getD_some, Option.getD_none,
    List.append_nil, List.forall_mem_cons, List.forall_mem_append]
  rw [and_right_comm, ← and_assoc]

theorem holds_compile_iff {m : Message} :
    (compile userId (some q) o).holds m = true ↔
      (compile userId none o).holds m = true ∧ ∀ p ∈ Predicate.ofQuery q, p.holds m = true := by
  rw [holds, holds, List.all_eq_true, List.all_eq_true, forall_mem_compile_iff]

theorem holds_texts_iff {m : Message} {texts : List String} :
    (compile userId (some { q with texts := texts }) o).holds m = true ↔
      (compile userId (some { q with texts := [] }) o).holds m = true ∧
        ∀ text ∈ texts, ∃ hay ∈ m.searchedTexts, containsFolded hay text = true := by
  rw [holds_compile_iff, holds_compile_iff, Predicate.ofQuery_texts, List.forall_mem_append,
    Predicate.holds_given_mentions_iff, ← and_assoc]

end Compile

/-- **A word narrows.** With a word behind a query, exactly those of the messages are left that have
the word in a text, whatever the query is: also if it ends in an open quote, or in an operator
without a value. -/
theorem holds_append_word_iff {word : String} (h : (Token.word word.toList).Grammatical)
    (userId : String) (now : Timestamp) (query : String) (o : SearchOptions) (m : Message) :
    (ofText userId now (query ++ " " ++ word) o).holds m = true ↔
      (ofText userId now query o).holds m = true ∧
        ∃ hay ∈ m.searchedTexts, containsFolded hay word = true := by
  rw [ofText, ParsedQuery.parse_append_word now query h, holds_texts_iff, List.forall_mem_append,
    List.forall_mem_singleton, ← and_assoc, ← holds_texts_iff]
  rfl

/-- A word behind an open quote and an operator without a value: it closes no phrase and is no
value, but a text to search for. -/
theorem holds_append_word_sample :
    (Token.word "quarterly".toList).Grammatical ∧
      (ofText "user-1" sampleCalls.message.sentAt
        ("-subject:\"annual from:" ++ " " ++ "quarterly") {}).holds sampleCalls.message = true := by
  have hword : (Token.word "quarterly".toList).Grammatical :=
    .word_of_letters (by decide) (by decide)
  have hquery : "-subject:\"annual from:".toList =
      ['-', 's', 'u', 'b', 'j', 'e', 'c', 't', ':', '"', 'a', 'n', 'n', 'u', 'a', 'l', ' ',
        'f', 'r', 'o', 'm', ':'] := by decide
  have hbefore : (ofText "user-1" sampleCalls.message.sentAt "-subject:\"annual from:" {}).holds
      sampleCalls.message = true := by
    rw [ofText, ParsedQuery.parse, hquery, Token.scan_of_trimLeft_cons rfl,
      Token.scan_of_trimLeft_cons rfl, Token.scan_of_trimLeft_nil rfl]
    decide
  have hsubject : ∃ hay ∈ sampleCalls.message.searchedTexts,
      containsFolded hay "quarterly" = true := by decide
  exact ⟨hword, (holds_append_word_iff hword _ _ _ _ _).mpr ⟨hbefore, hsubject⟩⟩

end PredicateSet

/-! ## Terms that are set aside -/

/-- A term that cannot be applied, written without a blank or a quote: its value is missing, its
operator cannot use the value, or it has a minus that its operator does not take. -/
inductive RejectedTerm (now : Timestamp) : String → Prop
  | intro {negated : Bool} {keyword value : List Char} {op : Operator}
      (hkeyword : keyword.map Char.toLower = op.keyword.toList)
      (hblank : ∀ c ∈ value, isBlank c = false) (hquote : '"' ∉ value)
      (hrejected : value = [] ∨ op.suits now value = false ∨
        (negated = true ∧ op.canNegate = false)) :
      RejectedTerm now (String.ofList ((if negated then ['-'] else []) ++ keyword ++ ':' :: value))

/-- A value without a blank or a quote, as it is read. -/
def TermValue.ofBare (value : List Char) : TermValue :=
  if value = [] then .missing else .bare value

namespace Token

section Bare

variable {negated : Bool} {keyword value : List Char} {op : Operator}

theorem source_ofBare :
    (term negated keyword op (.ofBare value)).source =
      (if negated then ['-'] else []) ++ keyword ++ ':' :: value := by
  cases value <;> rfl

theorem isRejected_ofBare {now : Timestamp} (h : value = [] ∨ op.suits now value = false ∨
      (negated = true ∧ op.canNegate = false)) :
    (term negated keyword op (.ofBare value)).isRejected now = true := by
  cases value with
  | nil => rfl
  | cons c value =>
    rcases h with h | h | ⟨rfl, h⟩
    · cases h
    · simp [isRejected, TermValue.ofBare, TermValue.content?, h]
    · simp [isRejected, TermValue.ofBare, TermValue.content?, h]

theorem quote_notMem_ofBare (hkeyword : keyword.map Char.toLower = op.keyword.toList)
    (hquote : '"' ∉ value) : '"' ∉ (term negated keyword op (.ofBare value)).source := by
  have hplain : '"' ∉ keyword := by
    intro hmem
    have hchar := isKeywordChar_of_mem hkeyword _ hmem
    revert hchar
    decide
  rw [source_ofBare]
  cases negated <;> simp [hplain, hquote]

variable (hblank : ∀ c ∈ value, isBlank c = false) (hquote : '"' ∉ value)
include hblank hquote

theorem termValue_ofBare :
    termValue op (TermValue.source (.ofBare value)) = (.ofBare value, []) := by
  cases value with
  | nil => rfl
  | cons c value =>
    have hhead : (c :: value).head? ≠ some '"' := fun h => hquote (List.mem_of_mem_head? h)
    have hvalue : termValue op (c :: value ++ []) = (.bare (c :: value), []) :=
      termValue_bare (List.cons_ne_nil c value) hblank (fun _ => hhead) atGap_nil
    rwa [List.append_nil] at hvalue

/-- A term that is written alone, with its value or without, is read as it is. -/
theorem scan_ofBare (hkeyword : keyword.map Char.toLower = op.keyword.toList) :
    scan (term negated keyword op (.ofBare value)).source =
      [term negated keyword op (.ofBare value)] := by
  have hvalue : termValue op (TermValue.source (.ofBare value) ++ []) = (.ofBare value, []) := by
    rw [List.append_nil]
    exact termValue_ofBare hblank hquote
  obtain ⟨c, cs, hcons, hc, hfirst⟩ : ∃ c cs,
      (term negated keyword op (.ofBare value)).source ++ [] = c :: cs ∧ isBlank c = false ∧
        first c cs = (.term negated keyword op (.ofBare value), []) :=
    first_of_keyword hkeyword hvalue
  rw [List.append_nil] at hcons
  rw [hcons, scan_of_trimLeft_cons (trimLeft_cons hc cs), hfirst, scan_of_trimLeft_nil rfl]

end Bare

end Token

namespace ParsedQuery

/-- **A term that is set aside changes nothing.** With such a term behind a query, the query is the
same but for the list of those terms, and so are the predicates, the clause, its text and its
parameters. -/
theorem parse_append_rejected {now : Timestamp} {term : String} (h : RejectedTerm now term)
    (query : String) :
    parse now (query ++ " " ++ term) =
        { parse now query with ignored := (parse now query).ignored ++ [term] } ∧
      ∀ userId o, PredicateSet.ofText userId now (query ++ " " ++ term) o =
          PredicateSet.ofText userId now query o ∧
        (PredicateSet.ofText userId now (query ++ " " ++ term) o).clause =
          (PredicateSet.ofText userId now query o).clause := by
  cases h with
  | @intro negated keyword value op hkeyword hblank hquote hrejected =>
    have hscan : Token.scan (Token.term negated keyword op (.ofBare value)).source =
        [.term negated keyword op (.ofBare value)] :=
      Token.scan_ofBare hblank hquote hkeyword
    have hparse := parse_append_token now query (Token.quote_notMem_ofBare hkeyword hquote) hscan
    rw [Token.source_ofBare, ofTokens_concat_rejected (Token.isRejected_ofBare hrejected),
      Token.source_ofBare] at hparse
    refine ⟨hparse, fun userId o => ?_⟩
    rw [PredicateSet.ofText, hparse]
    exact ⟨rfl, rfl⟩

/-- A size that cannot be read leaves the query as it was. -/
theorem parse_append_rejected_sample :
    RejectedTerm sampleCalls.message.sentAt "larger:lots" ∧
      parse sampleCalls.message.sentAt ("from:bob" ++ " " ++ "larger:lots") =
        { wanted := { sender := ["bob"] }, ignored := ["larger:lots"] } := by
  have hterm : RejectedTerm sampleCalls.message.sentAt "larger:lots" := by
    have hkeyword : ['l', 'a', 'r', 'g', 'e', 'r'].map Char.toLower =
        Operator.larger.keyword.toList := by decide
    have hsolid : ['l', 'o', 't', 's'].all (!isBlank ·) = true := by decide
    have hsize : Operator.larger.suits sampleCalls.message.sentAt ['l', 'o', 't', 's'] = false := by
      decide
    exact @RejectedTerm.intro _ false _ _ _ hkeyword
      (fun c hc => by simpa using List.all_eq_true.mp hsolid c hc) (by decide) (.inr (.inl hsize))
  refine ⟨hterm, ?_⟩
  obtain ⟨hparse, -⟩ := parse_append_rejected hterm "from:bob"
  have hquery : "from:bob".toList = ['f', 'r', 'o', 'm', ':', 'b', 'o', 'b'] := by decide
  have hbob : parse sampleCalls.message.sentAt "from:bob" =
      { wanted := { sender := ["bob"] } } := by
    rw [parse, hquery, Token.scan_of_trimLeft_cons rfl, Token.scan_of_trimLeft_nil rfl]
    decide
  rw [hparse, hbob]
  decide

end ParsedQuery

end MailSearch
