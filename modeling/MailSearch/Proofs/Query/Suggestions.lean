import MailSearch.Proofs.Query.Kept
import MailSearch.Proofs.Query.Parts
import MailSearch.Search.Predicate
import MailSearch.Search.Suggest

/-!
# Suggestions read back

What a sender or a subject asks for when its suggestion is read as a query.

* `Token.scan_suggestSubject`: a subject without a quote is read back as one term with that
  subject for its value.
* `Token.scan_suggestSender`: a sender is pasted as it is, so it is read as the value of one term
  and what its other words make. All texts among them are parts of the sender.
* `IsOneSender`: none of those other words is applied as a term. A sender without a colon is one
  (`isOneSender_of_no_colon`).
* `exists_ofQuery_suggestSender`, `ofQuery_suggestSubject`: the predicates of the two.
-/

namespace MailSearch

open Text Calendar

/-! ## Blanks at the ends -/

namespace Text

theorem trimLeft_eq_self {cs : List Char} (h : ∀ c ∈ cs.head?, isBlank c = false) :
    trimLeft cs = cs := by
  cases cs with
  | nil => rfl
  | cons c cs => exact trimLeft_cons (h c rfl) cs

/-- A text with no blank at either end is not trimmed. -/
theorem trim_eq_self {cs : List Char} (hhead : ∀ c ∈ cs.head?, isBlank c = false)
    (hlast : ∀ c ∈ cs.getLast?, isBlank c = false) : trim cs = cs := by
  have hright : trimLeft cs.reverse = cs.reverse :=
    trimLeft_eq_self fun c hc => hlast c (by rwa [List.head?_reverse] at hc)
  rw [trim, trimLeft_eq_self hhead, hright, List.reverse_reverse]

/-- Behind a text without blanks, trimming takes what is blank at the end and nothing else. -/
theorem exists_trim_append {start : List Char} (hne : start ≠ [])
    (hsolid : ∀ c ∈ start, isBlank c = false) (cs : List Char) :
    ∃ body gap, cs = body ++ gap ∧ (∀ c ∈ gap, isBlank c = true) ∧
      trim (start ++ cs) = start ++ body := by
  obtain ⟨gap, hgap, hsplit⟩ := Token.exists_gap cs.reverse
  have hcs : cs = (trimLeft cs.reverse).reverse ++ gap.reverse := by
    rw [← List.reverse_append, ← hsplit, List.reverse_reverse]
  have hleft : trimLeft (start ++ cs) = start ++ cs := by
    refine trimLeft_eq_self fun c hc => hsolid c ?_
    rw [List.head?_append_of_ne_nil _ hne] at hc
    exact List.mem_of_mem_head? hc
  have hright : trimLeft (start ++ cs).reverse = trimLeft cs.reverse ++ start.reverse := by
    rw [List.reverse_append, hsplit, List.append_assoc, trimLeft_append hgap, ← hsplit]
    refine trimLeft_eq_self fun c hc => ?_
    cases hbody : trimLeft cs.reverse with
    | nil =>
      rw [hbody] at hc
      exact hsolid c (List.mem_reverse.mp (List.mem_of_mem_head? hc))
    | cons d body =>
      rw [hbody] at hc
      cases hc
      exact trimLeft_head_not_blank hbody
  refine ⟨(trimLeft cs.reverse).reverse, gap.reverse, hcs,
    fun c hc => hgap c (List.mem_reverse.mp hc), ?_⟩
  rw [trim, hleft, hright, List.reverse_append, List.reverse_reverse]

end Text

/-! ## Tokens -/

namespace Token

/-- What a token was written with stands in the text. -/
theorem Spell.mem_of_source {ts : List Token} {cs : List Char} (h : Spell ts cs) {t : Token}
    (ht : t ∈ ts) {c : Char} (hc : c ∈ t.source) : c ∈ cs := by
  induction h with
  | nil => cases ht
  | @cons gap rest u us _ _ _ ih =>
    rw [List.mem_append, List.mem_append]
    rcases List.mem_cons.mp ht with rfl | ht
    · exact .inr (.inl hc)
    · exact .inr (.inr (ih ht))

theorem ne_nil_of_scan {cs : List Char} {t : Token} {ts : List Token} (h : scan cs = t :: ts) :
    cs ≠ [] := by
  rintro rfl
  rw [scan_of_trimLeft_nil rfl] at h
  cases h

theorem solid_of_keyword {keyword : List Char} {op : Operator}
    (h : keyword.map Char.toLower = op.keyword.toList) :
    ∀ c ∈ keyword ++ [':'], isBlank c = false := by
  intro c hc
  rcases List.mem_append.mp hc with hc | hc
  · exact isBlank_of_isKeywordChar (isKeywordChar_of_mem h c hc)
  · rw [List.mem_singleton.mp hc]
    decide

/-- A text that starts with a keyword and a colon is read as a term, and what follows its value. -/
theorem scan_of_keyword {keyword : List Char} {op : Operator}
    (h : keyword.map Char.toLower = op.keyword.toList) (body : List Char) :
    scan (keyword ++ [':'] ++ body) =
      .term false keyword op (termValue op body).1 :: scan (termValue op body).2 := by
  have hvalue : termValue op ((termValue op body).1.source ++ (termValue op body).2) =
      ((termValue op body).1, (termValue op body).2) := by
    rw [termValue_append]
  obtain ⟨c, cs, hcons, hblank, hfirst⟩ : ∃ c cs,
      (Token.term false keyword op (termValue op body).1).source ++ (termValue op body).2 =
          c :: cs ∧ isBlank c = false ∧
        first c cs = (.term false keyword op (termValue op body).1, (termValue op body).2) :=
    first_of_keyword h hvalue
  have htext : keyword ++ [':'] ++ body = c :: cs := by
    rw [← hcons]
    simp [source, termValue_append]
  rw [htext, scan_of_trimLeft_cons (trimLeft_cons hblank cs), hfirst]

/-- **A sender read back.** The suggestion of a sender is read as one term and the tokens of the
text behind its value. That value, and the words and phrases behind it, are parts of the sender. -/
theorem scan_suggestSender (sender : String) : ∃ value rest,
    scan (trim (suggestSender sender).toList) =
        .term false "from".toList .sender value :: scan rest ∧
      rest <:+: sender.toList ∧
      (∀ content, value.content? = some content → IsPart content sender.toList) ∧
      ∀ t ∈ scan rest, ∀ content, t.text? = some content → IsPart content sender.toList := by
  have hkeyword : "from".toList.map Char.toLower = Operator.sender.keyword.toList := by decide
  have htext : (suggestSender sender).toList = ("from".toList ++ [':']) ++ sender.toList := by
    rw [suggestSender, String.toList_append]
    rfl
  obtain ⟨body, gap, hsender, hgap, htrim⟩ :=
    exists_trim_append (by simp) (solid_of_keyword hkeyword) sender.toList
  have hstop : StartsAtStop gap := fun c hc =>
    isStop_of_isBlank (hgap c (List.mem_of_mem_head? hc))
  refine ⟨(termValue .sender body).1, (termValue .sender body).2, ?_, ?_, ?_, ?_⟩
  · rw [htext, htrim, scan_of_keyword hkeyword]
  · exact ⟨(termValue .sender body).1.source, gap, by rw [termValue_append, hsender]⟩
  · intro content hcontent
    rw [hsender]
    exact (isPart_of_termValue hcontent).append hstop
  · intro t ht content hcontent
    have hpart := isPart_of_scan (isCut_of_termValue .sender body []) ht hcontent
    rw [List.nil_append, termValue_append] at hpart
    rw [hsender]
    exact hpart.append hstop

/-- **A subject read back.** The suggestion of a subject without a quote is read as one term with
that subject for its value. -/
theorem scan_suggestSubject {subject : String} (hne : subject ≠ "")
    (hquote : '"' ∉ subject.toList) :
    scan (trim (suggestSubject subject).toList) =
      [.term false "subject".toList .subject (.phrase subject.toList)] := by
  have hkeyword : "subject".toList.map Char.toLower = Operator.subject.keyword.toList := by decide
  have hsubject : subject.toList ≠ [] := fun h => hne (String.toList_eq_nil_iff.mp h)
  have htext : (suggestSubject subject).toList =
      "subject".toList ++ [':'] ++ '"' :: (subject.toList ++ ['"']) := by
    rw [suggestSubject, String.toList_append, String.toList_append]
    rfl
  have htrim : trim (suggestSubject subject).toList = (suggestSubject subject).toList := by
    refine trim_eq_self (fun c hc => ?_) fun c hc => ?_
    · rw [htext] at hc
      cases hc
      decide
    · have hend : (suggestSubject subject).toList.getLast? = some '"' := by
        rw [suggestSubject, String.toList_append]
        exact List.getLast?_concat
      rw [hend] at hc
      cases hc
      decide
  rw [htrim, htext, scan_of_keyword hkeyword, termValue_phrase (.inl rfl) hsubject hquote [],
    scan_of_trimLeft_nil rfl]

end Token

/-! ## What is asked for -/

namespace ParsedQuery

/-- A text that the suggestion of a sender searches for is a part of the sender. -/
theorem isPart_of_mem_texts {now : Timestamp} {sender text : String}
    (h : text ∈ (parse now (trimString (suggestSender sender))).texts) :
    IsPart text.toList sender.toList := by
  obtain ⟨value, rest, hscan, -, -, htexts⟩ := Token.scan_suggestSender sender
  have hmem := mem_texts h
  rw [trimString, String.toList_ofList, hscan] at hmem
  rcases hmem with hmem | hmem
  · exact htexts _ (List.mem_of_ne_of_mem (by simp) hmem) _ rfl
  · exact htexts _ (List.mem_of_ne_of_mem (by simp) hmem) _ rfl

/-- Where no term is applied, a query keeps what it has. -/
theorem foldl_step_of_applied_nil {now : Timestamp} {ts : List Token}
    (h : Token.applied now ts = []) (q : ParsedQuery) :
    ∃ ignored, ts.foldl (step now) q = { q with ignored := ignored } := by
  induction ts generalizing q with
  | nil => exact ⟨q.ignored, rfl⟩
  | cons t ts ih =>
    rw [List.foldl_cons]
    obtain ⟨r, hr, -⟩ | ⟨hr, -, hstep⟩ | ⟨hr, -, hstep⟩ := step_cases now q t
    · rw [Token.applied, List.filterMap_cons_some hr] at h
      cases h
    · rw [Token.applied, List.filterMap_cons_none hr] at h
      obtain ⟨ignored, hfold⟩ := ih h (q.step now t)
      exact ⟨ignored, by rw [hfold, hstep]⟩
    · rw [Token.applied, List.filterMap_cons_none hr] at h
      obtain ⟨ignored, hfold⟩ := ih h (q.step now t)
      exact ⟨ignored, by rw [hfold, hstep]⟩

/-- Where the first token alone is applied, the query has its texts and what that token asks for. -/
theorem exists_ofTokens_cons {now : Timestamp} {ts : List Token} (h : Token.applied now ts = [])
    (t : Token) : ∃ ignored, ofTokens now (t :: ts) =
      { step now {} t with ignored := ignored, texts := (ofTokens now (t :: ts)).texts } := by
  obtain ⟨ignored, hfold⟩ := foldl_step_of_applied_nil h (step now {} t)
  refine ⟨ignored, ?_⟩
  unfold ofTokens
  rw [List.foldl_cons, hfold]

end ParsedQuery

theorem Predicate.given_nil {α : Type} (make : List α → Predicate) : given [] make = [] := rfl

/-- The predicates of a query that names senders, subjects and texts alone. -/
theorem Predicate.ofQuery_of_wanted (senders subjects texts ignored : List String) :
    ofQuery { wanted := { sender := senders, subject := subjects }, texts, ignored } =
      given senders (addressContains .sender · false) ++
        (given subjects (subjectContains · false) ++ given texts mentions) := by
  unfold ofQuery
  simp only [given_nil, List.any_nil, Bool.false_eq_true, if_false, List.filterMap_nil,
    Option.map_none, Option.toList_none, ofBounds, Option.isSome_none, Bool.or_self,
    List.append_nil, List.append_assoc]

/-- No word of the sender behind the first is applied as a term when its suggestion is read. -/
def IsOneSender (now : Timestamp) (sender : String) : Prop :=
  Token.applied now (Token.scan (trim (suggestSender sender).toList)).tail = []

/-- A sender without a colon holds no terms. -/
theorem isOneSender_of_no_colon {sender : String} (h : ':' ∉ sender.toList) (now : Timestamp) :
    IsOneSender now sender := by
  obtain ⟨value, rest, hscan, hpiece, -⟩ := Token.scan_suggestSender sender
  rw [IsOneSender, hscan, List.tail_cons, Token.applied, List.filterMap_eq_nil_iff]
  intro t ht
  cases happlied : t.applied? now with
  | none => rfl
  | some r =>
    obtain ⟨content, keyword, value, rfl, -⟩ := Token.exists_of_applied? happlied
    have hcolon : ':' ∈ rest := (Token.scan_spell rest).mem_of_source ht (by simp [Token.source])
    exact absurd (List.IsInfix.subset hpiece hcolon) h

/-- The predicates of the suggestion of a sender look for parts of the sender: one as an address,
if there is one, and others as texts. -/
theorem exists_ofQuery_suggestSender {now : Timestamp} {sender : String}
    (h : IsOneSender now sender) : ∃ needles terms,
    Predicate.ofQuery (ParsedQuery.parse now (trimString (suggestSender sender))) =
        Predicate.given needles (.addressContains .sender · false) ++
          Predicate.given terms .mentions ∧
      (∀ needle ∈ needles, IsPart needle.toList sender.toList) ∧
      ∀ term ∈ terms, IsPart term.toList sender.toList := by
  obtain ⟨value, rest, hscan, -, hvalue, -⟩ := Token.scan_suggestSender sender
  have hrest : Token.applied now (Token.scan rest) = [] := by
    rwa [IsOneSender, hscan] at h
  have hterms : ∀ term ∈ (ParsedQuery.parse now (trimString (suggestSender sender))).texts,
      IsPart term.toList sender.toList := fun _ => ParsedQuery.isPart_of_mem_texts
  have hparse : ParsedQuery.parse now (trimString (suggestSender sender)) =
      ParsedQuery.ofTokens now (.term false "from".toList .sender value :: Token.scan rest) := by
    rw [ParsedQuery.parse, trimString, String.toList_ofList, hscan]
  obtain ⟨ignored, hfold⟩ := ParsedQuery.exists_ofTokens_cons hrest
    (.term false "from".toList .sender value)
  rw [hparse] at hterms ⊢
  rw [hfold]
  generalize (ParsedQuery.ofTokens now
    (.term false "from".toList .sender value :: Token.scan rest)).texts = terms at hterms ⊢
  cases hcontent : value.content? with
  | none =>
    refine ⟨[], terms, ?_, by simp, hterms⟩
    simp only [ParsedQuery.step, hcontent]
    exact Predicate.ofQuery_of_wanted [] [] terms ignored
  | some content =>
    refine ⟨[String.ofList content], terms, ?_, ?_, hterms⟩
    · simp only [ParsedQuery.step, hcontent]
      exact Predicate.ofQuery_of_wanted [String.ofList content] [] terms ignored
    · intro needle hneedle
      rw [List.mem_singleton.mp hneedle, String.toList_ofList]
      exact hvalue content hcontent

/-- The suggestion of a subject without a quote asks for that subject. -/
theorem ofQuery_suggestSubject {now : Timestamp} {subject : String} (hne : subject ≠ "")
    (hquote : '"' ∉ subject.toList) :
    Predicate.ofQuery (ParsedQuery.parse now (trimString (suggestSubject subject))) =
      [.subjectContains [subject] false] := by
  rw [ParsedQuery.parse, trimString, String.toList_ofList, Token.scan_suggestSubject hne hquote]
  have hparse : ParsedQuery.ofTokens now
      [.term false "subject".toList .subject (.phrase subject.toList)] =
        { wanted := { subject := [String.ofList subject.toList] } } := rfl
  rw [hparse, String.ofList_toList]
  exact Predicate.ofQuery_of_wanted [] [subject] [] []

end MailSearch
