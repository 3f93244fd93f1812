import MailSearch.Proofs.Query.Kept
import MailSearch.Proofs.Query.Suggestions

/-!
# Terms and their negations

The query of one term, with a minus before it or without, has one predicate. With the minus it is
the opposite one: `Negatable.exists_opposite`.

* `Negatable op value`: the operators that can be turned around, with the values that they know.
* `Predicate.Opposite`: two predicates of which every message satisfies exactly one.
-/

namespace MailSearch

open Text Calendar

/-! ## Queries of one term -/

/-- The query of one term. -/
def termQuery (negated : Bool) (op : Operator) (value : String) : String :=
  (if negated then "-" else "") ++ op.keyword ++ ":" ++ value

/-- A value that is written as it is: some characters, no blank and no quote among them. -/
structure IsBareValue (value : String) : Prop where
  nonempty : value ≠ ""
  blank : ∀ c ∈ value.toList, isBlank c = false
  quote : '"' ∉ value.toList

/-- A word of letters is such a value, in any case. -/
theorem isBareValue_of_asciiLower {value : String} (hne : asciiLower value ≠ "")
    (hword : ∀ c ∈ (asciiLower value).toList, Token.isKeywordChar c = true) :
    IsBareValue value := by
  have hchar : ∀ c ∈ value.toList, Token.isKeywordChar c = true := by
    intro c hc
    refine Token.isKeywordChar_of_toLower (hword _ ?_)
    rw [asciiLower, String.toList_ofList]
    exact List.mem_map_of_mem hc
  have hquote : Token.isKeywordChar '"' = false := by decide
  constructor
  case nonempty =>
    rintro rfl
    exact hne rfl
  case blank => exact fun c hc => Token.isBlank_of_isKeywordChar (hchar c hc)
  case quote =>
    intro hc
    rw [hchar _ hc] at hquote
    cases hquote

/-- A query without blanks is taken as it is. -/
theorem SearchOptions.nonBlank?_eq_self {query : String} (hne : query.toList ≠ [])
    (h : ∀ c ∈ query.toList, isBlank c = false) : nonBlank? query = some query := by
  have htrim : trim query.toList = query.toList :=
    trim_eq_self (fun c hc => h c (List.mem_of_mem_head? hc))
      fun c hc => h c (List.mem_of_mem_getLast? hc)
  rw [nonBlank?, htrim, if_neg hne, trimString, htrim, String.ofList_toList]

theorem IsBareValue.nonBlank? {value : String} (h : IsBareValue value) :
    SearchOptions.nonBlank? value = some value :=
  SearchOptions.nonBlank?_eq_self (fun hnil => h.nonempty (String.toList_eq_nil_iff.mp hnil))
    h.blank

theorem source_termQuery (negated : Bool) (op : Operator) (value : String) :
    (termQuery negated op value).toList =
      (Token.term negated op.keyword.toList op (.bare value.toList)).source := by
  cases negated <;> simp [termQuery, Token.source, TermValue.source]

/-- One of some words of letters, in any case. -/
theorem isBareValue_of_words {value : String} {words : List String} (h : asciiLower value ∈ words)
    (hwords : ∀ word ∈ words, word ≠ "" ∧ word.toList.all Token.isKeywordChar = true) :
    IsBareValue value := by
  obtain ⟨hne, hchars⟩ := hwords _ h
  exact isBareValue_of_asciiLower hne (List.all_eq_true.mp hchars)

theorem Predicate.word_of_flagOf? {value : String} {mark : MessageFlag × Bool}
    (h : flagOf? value = some mark) :
    asciiLower value ∈ ["read", "unread", "starred", "star", "important"] := by
  unfold flagOf? at h
  simp only at h
  simp only [List.mem_cons, List.not_mem_nil, or_false]
  split_ifs at h with hread hunread hstarred himportant
  · exact .inl hread
  · exact .inr (.inl hunread)
  · exact .inr (.inr (hstarred.elim .inl fun hstar => .inr (.inl hstar)))
  · exact .inr (.inr (.inr (.inr himportant)))

/-- A value that asks for a mark is bare. -/
theorem isBareValue_of_flagOf? {value : String} (h : (Predicate.flagOf? value).isSome = true) :
    IsBareValue value := by
  obtain ⟨mark, hmark⟩ := Option.isSome_iff_exists.mp h
  exact isBareValue_of_words (Predicate.word_of_flagOf? hmark) (by decide)

section Term

variable {value : String} (h : IsBareValue value) (negated : Bool) (op : Operator)
include h

/-- A term with such a value is one of the grammar. -/
theorem IsBareValue.grammatical :
    (Token.term negated op.keyword.toList op (.bare value.toList)).Grammatical := by
  have hkeyword : op.keyword.toList.map Char.toLower = op.keyword.toList := by
    cases op <;> decide
  have hne : value.toList ≠ [] := fun hnil => h.nonempty (String.toList_eq_nil_iff.mp hnil)
  exact .plain hkeyword hne h.blank fun _ hhead => h.quote (List.mem_of_mem_head? hhead)

/-- The query of a term is read as that term. -/
theorem scan_termQuery :
    Token.scan (termQuery negated op value).toList =
      [.term negated op.keyword.toList op (.bare value.toList)] := by
  rw [source_termQuery]
  exact (Token.Sentence.last (h.grammatical negated op)).scan

/-- No blank stands in it. -/
theorem isBlank_of_mem_termQuery :
    ∀ c ∈ (termQuery negated op value).toList, isBlank c = false := by
  have hkeyword := Token.isKeywordChar_keyword op
  intro c hc
  simp only [source_termQuery, Token.source, TermValue.source, List.mem_append,
    List.mem_cons] at hc
  rcases hc with (hc | hc) | rfl | hc
  · cases negated
    · cases hc
    · rw [List.mem_singleton.mp hc]
      decide
  · exact Token.isBlank_of_isKeywordChar (List.all_eq_true.mp hkeyword c hc)
  · decide
  · exact h.blank c hc

/-- It is parsed as it is given. -/
theorem nonBlank?_termQuery :
    SearchOptions.nonBlank? (termQuery negated op value) = some (termQuery negated op value) :=
  SearchOptions.nonBlank?_eq_self (Token.ne_nil_of_scan (scan_termQuery h negated op))
    (isBlank_of_mem_termQuery h negated op)

end Term

/-! ## Opposite predicates -/

/-- The terms that a minus turns around: an address or a subject that contains a bare value,
attachments, and a mark. -/
inductive Negatable : Aspect → String → Prop
  | sender {value : String} (h : IsBareValue value) : Negatable .sender value
  | recipient {value : String} (h : IsBareValue value) : Negatable .recipient value
  | subject {value : String} (h : IsBareValue value) : Negatable .subject value
  | has {value : String} (h : Predicate.namesAttachment value = true) : Negatable .has value
  | status {value : String} (h : (Predicate.flagOf? value).isSome = true) :
      Negatable .status value

/-- The value of such a term is bare. -/
theorem Negatable.isBareValue {aspect : Aspect} {value : String} (h : Negatable aspect value) :
    IsBareValue value := by
  cases h with
  | sender h => exact h
  | recipient h => exact h
  | subject h => exact h
  | has h =>
    refine isBareValue_of_words (List.contains_iff_mem.mp h) ?_
    decide
  | status h => exact isBareValue_of_flagOf? h

namespace Predicate

/-- Two predicates of which every message satisfies exactly one. -/
inductive Opposite : Predicate → Predicate → Prop
  | address {field : AddressField} {needles : List String} :
      Opposite (.addressContains field needles false) (.addressContains field needles true)
  | subject {needles : List String} :
      Opposite (.subjectContains needles false) (.subjectContains needles true)
  | attachment : Opposite (.attachmentExists true) (.attachmentExists false)
  | flag {flag : MessageFlag} {expected : Bool} :
      Opposite (.flagIs flag expected) (.flagIs flag (!expected))

theorem Opposite.holds_eq {p q : Predicate} (h : Opposite p q) (m : Message) :
    q.holds m = !p.holds m := by
  cases h with
  | address => simp [holds]
  | subject => simp [holds]
  | attachment => cases hm : m.hasAttachments <;> simp [holds, hm]
  | @flag flag expected => cases hm : m.flag flag <;> cases expected <;> simp [holds, hm]

/-- The predicates of a query that has terms for aspects alone. -/
theorem ofQuery_of_aspects (wanted unwanted : AspectValues) :
    ofQuery { wanted, unwanted } =
      given wanted.sender (addressContains .sender · false) ++
      given unwanted.sender (addressContains .sender · true) ++
      given wanted.recipient (addressContains .recipient · false) ++
      given unwanted.recipient (addressContains .recipient · true) ++
      given wanted.subject (subjectContains · false) ++
      given unwanted.subject (subjectContains · true) ++
      (if wanted.has.any namesAttachment then [attachmentExists true] else []) ++
      (if unwanted.has.any namesAttachment then [attachmentExists false] else []) ++
      wanted.status.filterMap (ofStatus? false) ++
      unwanted.status.filterMap (ofStatus? true) := by
  unfold ofQuery
  simp only [given_nil, Option.map_none, Option.toList_none, ofBounds, Option.isSome_none,
    Bool.or_self, Bool.false_eq_true, if_false, List.append_nil]

/-- The predicates of a term for an aspect. -/
def ofAspect (negated : Bool) (value : String) : Aspect → List Predicate
  | .sender => [addressContains .sender [value] negated]
  | .recipient => [addressContains .recipient [value] negated]
  | .subject => [subjectContains [value] negated]
  | .has => if namesAttachment value then [attachmentExists !negated] else []
  | .status => (ofStatus? negated value).toList

theorem ofQuery_addAspect (aspect : Aspect) (negated : Bool) (value : String) :
    ofQuery (({} : ParsedQuery).addAspect aspect negated value) =
      ofAspect negated value aspect := by
  have hsides : ({} : ParsedQuery).addAspect aspect negated value =
      if negated then { unwanted := AspectValues.modify {} (fun _ => [value]) aspect }
      else { wanted := AspectValues.modify {} (fun _ => [value]) aspect } := by
    cases aspect <;> cases negated <;> rfl
  have hstatus (p? : String → Option Predicate) : [value].filterMap p? = (p? value).toList := by
    cases hp : p? value <;> simp [hp]
  rw [hsides]
  cases negated
  · rw [if_neg Bool.false_ne_true, ofQuery_of_aspects]
    cases aspect <;> simp [AspectValues.modify, given, ofAspect, hstatus]
  · rw [if_pos rfl, ofQuery_of_aspects]
    cases aspect <;> simp [AspectValues.modify, given, ofAspect, hstatus]

end Predicate

/-- The query of a term for an aspect asks for that term. -/
theorem IsBareValue.parse_termQuery {value : String} (h : IsBareValue value) (now : Timestamp)
    (negated : Bool) (aspect : Aspect) :
    ParsedQuery.parse now (termQuery negated aspect.operator value) =
      ({} : ParsedQuery).addAspect aspect negated value := by
  have happly (s : List Char) : ParsedQuery.ofTokens now
      [.term negated aspect.operator.keyword.toList aspect.operator (.bare s)] =
        ({} : ParsedQuery).addAspect aspect negated (String.ofList s) := by
    cases aspect <;> cases negated <;> rfl
  rw [ParsedQuery.parse, scan_termQuery h, happly, String.ofList_toList]

/-- **A term and its negation.** The query of a negatable term has one predicate, and with a minus
before the term it has the opposite one. -/
theorem Negatable.exists_opposite {aspect : Aspect} {value : String} (h : Negatable aspect value) :
    ∃ p q, Predicate.Opposite p q ∧ ∀ now,
      Predicate.ofQuery (ParsedQuery.parse now (termQuery false aspect.operator value)) = [p] ∧
        Predicate.ofQuery (ParsedQuery.parse now (termQuery true aspect.operator value)) = [q] := by
  simp only [h.isBareValue.parse_termQuery, Predicate.ofQuery_addAspect]
  cases h with
  | sender _ => exact ⟨_, _, .address, fun _ => ⟨rfl, rfl⟩⟩
  | recipient _ => exact ⟨_, _, .address, fun _ => ⟨rfl, rfl⟩⟩
  | subject _ => exact ⟨_, _, .subject, fun _ => ⟨rfl, rfl⟩⟩
  | has h => exact ⟨_, _, .attachment, fun _ => ⟨if_pos h, if_pos h⟩⟩
  | status h =>
    obtain ⟨⟨flag, expected⟩, hmark⟩ := Option.isSome_iff_exists.mp h
    refine ⟨.flagIs flag expected, .flagIs flag (!expected), .flag, fun _ => ⟨?_, ?_⟩⟩
    · simp [Predicate.ofAspect, Predicate.ofStatus?, hmark]
    · simp [Predicate.ofAspect, Predicate.ofStatus?, hmark]

end MailSearch
