import MailSearch.Proofs.Query.Coverage

/-!
# The grammar of queries

* `Token.Grammatical`: the terms that the grammar of queries has, as tokens.
* `Token.Sentence ts cs`: the text writes the terms, with blanks between them.
* `Token.Grammatical.first`: a term is read up to its end and no further, whatever follows after
  a blank. So nothing behind a term, such as a quote that would close a phrase, changes how the
  term is read.
* `sentence_read_back`: a sentence is read as the terms that it was written from.
-/

namespace MailSearch

open Text Calendar

namespace Token

/-- A term of the grammar: an operator with a plain value, one with a quoted value, a phrase, or a
word. The keyword of an operator may be in any ASCII case, and a minus may stand before it. -/
inductive Grammatical : Token → Prop
  | plain {negated : Bool} {keyword value : List Char} {op : Operator}
      (hkeyword : keyword.map Char.toLower = op.keyword.toList) (hne : value ≠ [])
      (hblank : ∀ c ∈ value, isBlank c = false)
      (hquote : op = .subject ∨ op = .filename → value.head? ≠ some '"') :
      Grammatical (.term negated keyword op (.bare value))
  | quoted {negated : Bool} {keyword content : List Char} {op : Operator}
      (hkeyword : keyword.map Char.toLower = op.keyword.toList)
      (hop : op = .subject ∨ op = .filename) (hne : content ≠ []) (hquote : '"' ∉ content) :
      Grammatical (.term negated keyword op (.phrase content))
  | phrase {content : List Char} (hne : content ≠ []) (hquote : '"' ∉ content) :
      Grammatical (.phrase content)
  | word {source : List Char} (hne : source ≠ []) (hblank : ∀ c ∈ source, isBlank c = false)
      (hquote : '"' ∉ source) (hterm : ¬ StartsTerm source) : Grammatical (.word source)

/-- The text writes the terms of the grammar in order, with some blanks between any two. Blanks
may also stand at the end. -/
inductive Sentence : List Token → List Char → Prop
  | nil : Sentence [] []
  | last {t : Token} (term : t.Grammatical) : Sentence [t] t.source
  | cons {t : Token} {ts : List Token} {gap cs : List Char} (term : t.Grammatical)
      (nonempty : gap ≠ []) (blank : ∀ c ∈ gap, isBlank c = true) (tail : Sentence ts cs) :
      Sentence (t :: ts) (t.source ++ (gap ++ cs))

/-- The text is at an end, or at a blank. -/
def AtGap (cs : List Char) : Prop := ∀ c ∈ cs.head?, isBlank c = true

theorem atGap_nil : AtGap [] := by
  intro c hc
  cases hc

theorem atGap_append {gap : List Char} (hne : gap ≠ []) (hblank : ∀ c ∈ gap, isBlank c = true)
    (cs : List Char) : AtGap (gap ++ cs) := by
  obtain ⟨b, bs, rfl⟩ := List.exists_cons_of_ne_nil hne
  intro c hc
  cases hc
  exact hblank b List.mem_cons_self

/-- One space is a gap. -/
theorem isBlank_of_mem_space : ∀ c ∈ [' '], isBlank c = true := by
  intro c hc
  rw [List.mem_singleton.mp hc]
  decide

/-! ## Where the readers stop -/

theorem takesPhrase_iff {op : Operator} :
    op.takesPhrase = true ↔ op = .subject ∨ op = .filename := by
  cases op <;> decide

theorem closedPhrase?_of_ne {c : Char} (hc : c ≠ '"') (cs : List Char) :
    closedPhrase? (c :: cs) = none := by
  unfold closedPhrase?
  split
  · rename_i heq
    exact absurd (List.cons.inj heq).1 hc
  · rfl

/-- A phrase is read up to its closing quote. -/
theorem closedPhrase?_append {content : List Char} (hne : content ≠ []) (hquote : '"' ∉ content)
    (rest : List Char) :
    closedPhrase? ('"' :: (content ++ '"' :: rest)) = some (content, rest) := by
  have hpass : ∀ c ∈ content, (!isQuote c) = true := by
    intro c hc
    have hne : c ≠ '"' := fun h => hquote (h ▸ hc)
    simpa [isQuote] using hne
  have htake : (content ++ '"' :: rest).takeWhile (!isQuote ·) = content := by
    rw [List.takeWhile_append_of_pos hpass, List.takeWhile_cons_of_neg (by simp [isQuote]),
      List.append_nil]
  have hdrop : (content ++ '"' :: rest).dropWhile (!isQuote ·) = '"' :: rest := by
    rw [List.dropWhile_append_of_pos hpass, List.dropWhile_cons_of_neg (by simp [isQuote])]
  obtain ⟨c, cs, rfl⟩ := List.exists_cons_of_ne_nil hne
  simp only [closedPhrase?, htake, hdrop]

/-- A run without a blank is read up to the gap after it. -/
theorem bareRun_append {value rest : List Char} (hblank : ∀ c ∈ value, isBlank c = false)
    (hrest : AtGap rest) : bareRun (value ++ rest) = (value, rest) := by
  have hpass : ∀ c ∈ value, (!isBlank c) = true := fun c hc => by simp [hblank c hc]
  unfold bareRun
  rw [List.takeWhile_append_of_pos hpass, List.dropWhile_append_of_pos hpass]
  cases rest with
  | nil => simp
  | cons c cs =>
    have hc := hrest c rfl
    rw [List.takeWhile_cons_of_neg (by simp [hc]), List.dropWhile_cons_of_neg (by simp [hc]),
      List.append_nil]

/-- A run of a word without a quote is read up to the gap after it: no phrase starts within. -/
theorem wordRun_of_append {run rest : List Char} (hblank : ∀ c ∈ run, isBlank c = false)
    (hquote : '"' ∉ run) (hrest : AtGap rest) : wordRun (run ++ rest) = (run, rest) := by
  induction run with
  | nil =>
    cases rest with
    | nil => rfl
    | cons c cs => simp [wordRun, hrest c rfl]
  | cons c run ih =>
    have hc : c ≠ '"' := fun h => hquote (h ▸ List.mem_cons_self)
    have htail := ih (fun d hd => hblank d (List.mem_cons_of_mem _ hd))
      fun h => hquote (List.mem_cons_of_mem _ h)
    rw [List.cons_append, wordRun, hblank c List.mem_cons_self, closedPhrase?_of_ne hc, htail]
    rfl

/-- What is written after the colon of a term of the grammar is read as its value. -/
theorem termValue_bare {op : Operator} {value rest : List Char} (hne : value ≠ [])
    (hblank : ∀ c ∈ value, isBlank c = false)
    (hquote : op = .subject ∨ op = .filename → value.head? ≠ some '"') (hrest : AtGap rest) :
    termValue op (value ++ rest) = (.bare value, rest) := by
  have hrun := bareRun_append hblank hrest
  obtain ⟨v, vs, rfl⟩ := List.exists_cons_of_ne_nil hne
  have hphrase : (if op.takesPhrase then closedPhrase? (v :: (vs ++ rest)) else none) = none := by
    split
    · rename_i htakes
      refine closedPhrase?_of_ne (fun hv => ?_) _
      exact hquote (takesPhrase_iff.mp htakes) (by rw [hv]; rfl)
    · rfl
  rw [List.cons_append] at hrun ⊢
  simp only [termValue, hblank v List.mem_cons_self, hphrase, hrun]
  rfl

theorem termValue_phrase {op : Operator} {content : List Char}
    (hop : op = .subject ∨ op = .filename) (hne : content ≠ []) (hquote : '"' ∉ content)
    (rest : List Char) :
    termValue op ('"' :: (content ++ '"' :: rest)) = (.phrase content, rest) := by
  have hblank : isBlank '"' = false := by decide
  simp only [termValue, hblank, takesPhrase_iff.mpr hop, if_true, closedPhrase?_append hne hquote]
  rfl

/-! ## Words -/

theorem isBlank_of_isKeywordChar {c : Char} (h : isKeywordChar c = true) : isBlank c = false := by
  simp only [isKeywordChar, Char.isAlpha, Char.isUpper, Char.isLower, Bool.or_eq_true,
    Bool.and_eq_true, decide_eq_true_eq, UInt32.le_iff_toNat_le, ge_iff_le] at h
  change ((65 ≤ c.toNat ∧ c.toNat ≤ 90) ∨ (97 ≤ c.toNat ∧ c.toNat ≤ 122)) ∨ c = '_' at h
  rcases h with h | rfl
  · rw [← Bool.not_eq_true]
    intro hblank
    simp only [isBlank, Bool.or_eq_true, Bool.and_eq_true, decide_eq_true_eq, beq_iff_eq] at hblank
    omega
  · decide

/-- A text that starts with one without blanks has it within its first run. -/
theorem exists_append_of_gap {run start rest more : List Char} (h : run ++ rest = start ++ more)
    (hstart : ∀ c ∈ start, isBlank c = false) (hrest : AtGap rest) :
    ∃ tail, run = start ++ tail := by
  rcases List.append_eq_append_iff.mp h with ⟨gap, hgap, hrest'⟩ | ⟨tail, htail, -⟩
  · cases gap with
    | nil => exact ⟨[], by rw [hgap, List.append_nil, List.append_nil]⟩
    | cons c gap =>
      -- The gap would lie within the start.
      have hblank : isBlank c = true := hrest c (by rw [hrest']; rfl)
      rw [hstart c (by rw [hgap]; simp)] at hblank
      cases hblank
  · exact ⟨tail, htail⟩

/-- No term starts at a word, whatever follows it after a gap. -/
theorem termStart?_of_not_startsTerm {source rest : List Char} (h : ¬ StartsTerm source)
    (hrest : AtGap rest) : termStart? (source ++ rest) = none := by
  rw [Option.eq_none_iff_forall_ne_some]
  rintro ⟨negated, keyword, op, more⟩ hstart
  obtain ⟨hop, heq⟩ := termStart?_eq_some hstart
  have hkeyword := (Operator.keyword_of_ofKeyword? hop).symm
  have hstart : ∀ c ∈ (if negated then ['-'] else []) ++ keyword ++ [':'], isBlank c = false := by
    intro c hc
    rcases List.mem_append.mp hc with hc | hc
    · rcases List.mem_append.mp hc with hc | hc
      · cases negated
        · cases hc
        · rw [List.mem_singleton.mp hc]
          decide
      · exact isBlank_of_isKeywordChar (isKeywordChar_of_mem hkeyword c hc)
    · rw [List.mem_singleton.mp hc]
      decide
  obtain ⟨tail, rfl⟩ := exists_append_of_gap (heq.trans (List.append_cons ..)) hstart hrest
  refine h ⟨if negated then ['-'] else [], keyword, tail, op, ?_, hkeyword, ?_⟩
  · cases negated
    · exact .inl rfl
    · exact .inr rfl
  · simp

/-- Letters make up a word. -/
theorem Grammatical.word_of_letters {source : List Char} (hne : source ≠ [])
    (h : source.all isKeywordChar = true) : (Token.word source).Grammatical := by
  have hchar : ∀ c ∈ source, isKeywordChar c = true := List.all_eq_true.mp h
  refine .word hne (fun c hc => isBlank_of_isKeywordChar (hchar c hc)) (fun hquote => ?_) ?_
  · have hletter := hchar _ hquote
    revert hletter
    decide
  · rintro ⟨minus, keyword, rest, op, -, -, rfl⟩
    have hletter : isKeywordChar ':' = true := hchar _ (by simp)
    revert hletter
    decide

/-! ## Terms and sentences -/

section First

variable {text rest : List Char} {c : Char} {cs : List Char}

theorem first_of_closedPhrase? {content : List Char} (htext : text = c :: cs)
    (h : closedPhrase? text = some (content, rest)) : first c cs = (.phrase content, rest) := by
  subst htext
  simp only [first, h]

theorem first_of_termStart? {negated : Bool} {keyword more : List Char} {op : Operator}
    {value : TermValue} (htext : text = c :: cs) (hphrase : closedPhrase? text = none)
    (hstart : termStart? text = some (negated, keyword, op, more))
    (hvalue : termValue op more = (value, rest)) :
    first c cs = (.term negated keyword op value, rest) := by
  subst htext
  simp only [first, hphrase, hstart, hvalue]

theorem first_of_wordRun {run : List Char} (htext : text = c :: cs)
    (hphrase : closedPhrase? text = none) (hstart : termStart? text = none)
    (hrun : wordRun cs = (run, rest)) : first c cs = (.word (c :: run), rest) := by
  subst htext
  simp only [first, hphrase, hstart, hrun]

/-- A term of an operator is read up to the end of its value. -/
theorem first_of_keyword {negated : Bool} {keyword : List Char} {op : Operator} {value : TermValue}
    (hkeyword : keyword.map Char.toLower = op.keyword.toList)
    (hvalue : termValue op (value.source ++ rest) = (value, rest)) :
    ∃ c cs, (Token.term negated keyword op value).source ++ rest = c :: cs ∧ isBlank c = false ∧
      first c cs = (.term negated keyword op value, rest) := by
  obtain ⟨k, ks, hk⟩ := List.exists_cons_of_ne_nil (keyword_ne_nil hkeyword)
  have hchar : isKeywordChar k = true := isKeywordChar_of_mem hkeyword k (by rw [hk]; simp)
  have htext : (Token.term negated keyword op value).source ++ rest =
      (if negated then ['-'] else []) ++ keyword ++ ':' :: (value.source ++ rest) := by
    simp [source]
  have hstart := termStart?_append hkeyword negated (value.source ++ rest)
  rw [← htext] at hstart
  obtain ⟨c, cs, hcons, hc⟩ : ∃ c cs,
      (Token.term negated keyword op value).source ++ rest = c :: cs ∧
        (c = '-' ∨ isKeywordChar c = true) := by
    rw [htext, hk]
    cases negated with
    | true => exact ⟨_, _, rfl, .inl rfl⟩
    | false => exact ⟨_, _, rfl, .inr hchar⟩
  have hblank : isBlank c = false := by
    rcases hc with rfl | hc
    · decide
    · exact isBlank_of_isKeywordChar hc
  have hquote : c ≠ '"' := by
    rintro rfl
    revert hc
    decide
  have hphrase : closedPhrase? ((Token.term negated keyword op value).source ++ rest) = none := by
    rw [hcons]
    exact closedPhrase?_of_ne hquote cs
  exact ⟨c, cs, hcons, hblank, first_of_termStart? hcons hphrase hstart hvalue⟩

end First

/-- A term of the grammar is read up to its end, whatever follows it after a gap. -/
theorem Grammatical.first {t : Token} (h : t.Grammatical) {rest : List Char} (hrest : AtGap rest) :
    ∃ c cs, t.source ++ rest = c :: cs ∧ isBlank c = false ∧ Token.first c cs = (t, rest) := by
  cases h with
  | plain hkeyword hne hblank hquote =>
    exact first_of_keyword hkeyword (termValue_bare hne hblank hquote hrest)
  | quoted hkeyword hop hne hquote =>
    refine first_of_keyword hkeyword ?_
    simpa [TermValue.source] using termValue_phrase hop hne hquote rest
  | @phrase content hne hquote =>
    have htext : (Token.phrase content).source ++ rest = '"' :: (content ++ '"' :: rest) := by
      simp [source]
    refine ⟨'"', _, htext, by decide, ?_⟩
    exact first_of_closedPhrase? rfl (closedPhrase?_append hne hquote rest)
  | @word source hne hblank hquote hterm =>
    obtain ⟨c, run, rfl⟩ := List.exists_cons_of_ne_nil hne
    have hstart := termStart?_of_not_startsTerm hterm hrest
    have hc : c ≠ '"' := fun h => hquote (h ▸ List.mem_cons_self)
    have hrun := wordRun_of_append (fun d hd => hblank d (List.mem_cons_of_mem _ hd))
      (fun h => hquote (List.mem_cons_of_mem _ h)) hrest
    exact ⟨c, run ++ rest, rfl, hblank c List.mem_cons_self,
      first_of_wordRun rfl (closedPhrase?_of_ne hc _) hstart hrun⟩

/-- Blanks in front of a text make no token. -/
theorem scan_gap {gap : List Char} (hblank : ∀ c ∈ gap, isBlank c = true) (cs : List Char) :
    scan (gap ++ cs) = scan cs := by
  have htrim := trimLeft_append hblank cs
  cases h : trimLeft cs with
  | nil => rw [scan_of_trimLeft_nil (htrim.trans h), scan_of_trimLeft_nil h]
  | cons c rest => rw [scan_of_trimLeft_cons (htrim.trans h), scan_of_trimLeft_cons h]

/-- A term of the grammar is the first token of a text that it starts. -/
theorem Grammatical.scan {t : Token} (h : t.Grammatical) {rest : List Char} (hrest : AtGap rest) :
    Token.scan (t.source ++ rest) = t :: Token.scan rest := by
  obtain ⟨c, cs, hcons, hblank, hfirst⟩ := h.first hrest
  have htrim : trimLeft (t.source ++ rest) = c :: cs := by
    rw [hcons]
    exact trimLeft_cons hblank cs
  rw [scan_of_trimLeft_cons htrim, hfirst]

/-- A sentence is read as its terms. -/
theorem Sentence.scan {ts : List Token} {cs : List Char} (h : Sentence ts cs) :
    Token.scan cs = ts := by
  induction h with
  | nil => exact scan_of_trimLeft_nil rfl
  | @last t term =>
    have hnil : Token.scan [] = [] := scan_of_trimLeft_nil rfl
    have hend := term.scan atGap_nil
    rwa [List.append_nil, hnil] at hend
  | @cons t ts gap cs term nonempty blank tail ih =>
    rw [term.scan (atGap_append nonempty blank cs), scan_gap blank, ih]

end Token

/-- **The grammar is read back.** A sentence is read as exactly the terms that it was written from,
in their order, each with its operator, its sign and its value. The query searches for its phrases
and then for its words, both in their order. -/
theorem sentence_read_back (now : Timestamp) {terms : List Token} {query : String}
    (h : Token.Sentence terms query.toList) :
    Token.scan query.toList = terms ∧
      (ParsedQuery.parse now query).texts =
        terms.filterMap ParsedQuery.phraseText? ++ terms.filterMap ParsedQuery.wordText? := by
  refine ⟨h.scan, ?_⟩
  rw [ParsedQuery.parse, h.scan, ParsedQuery.ofTokens]

/-- A negated term with a keyword in capitals, a quoted value, a phrase and a word. -/
def sampleTerms : List Token :=
  [.term true ['F', 'R', 'O', 'M'] .sender (.bare ['A', '"', 'n']),
    .term false ['s', 'u', 'b', 'j', 'e', 'c', 't'] .subject (.phrase ['a', ' ', 'b']),
    .phrase ['t', 'o', ' ', 'd', 'o'], .word ['i', 'n']]

/-- The terms, with one blank or two between them, are read back. -/
theorem sentence_read_back_sample :
    Token.Sentence sampleTerms "-FROM:A\"n\u2003subject:\"a b\"  \"to do\" in".toList ∧
      Token.scan "-FROM:A\"n\u2003subject:\"a b\"  \"to do\" in".toList = sampleTerms ∧
      (ParsedQuery.parse (.startOfDay ⟨2024, 1, 15, by decide⟩)
        "-FROM:A\"n\u2003subject:\"a b\"  \"to do\" in").texts = ["to do", "in"] := by
  have hquery : "-FROM:A\"n\u2003subject:\"a b\"  \"to do\" in".toList =
      "-FROM:A\"n".toList ++ (['\u2003'] ++ ("subject:\"a b\"".toList ++ ([' ', ' '] ++
        ("\"to do\"".toList ++ ([' '] ++ ['i', 'n']))))) := by decide
  have hword : ¬ Token.StartsTerm ['i', 'n'] := by
    intro h
    have hstart := Token.termStart?_of_startsTerm h []
    revert hstart
    decide
  have hsentence : Token.Sentence sampleTerms
      "-FROM:A\"n\u2003subject:\"a b\"  \"to do\" in".toList := by
    have hsolid : ∀ {cs : List Char}, cs.all (!isBlank ·) = true → ∀ c ∈ cs, isBlank c = false :=
      fun h c hc => by simpa using List.all_eq_true.mp h c hc
    have hgap : ∀ {cs : List Char}, cs.all isBlank = true → ∀ c ∈ cs, isBlank c = true :=
      fun h => List.all_eq_true.mp h
    rw [hquery]
    refine .cons (.plain (by decide) (by decide) (hsolid (by decide)) (by decide)) (by decide)
      (hgap (by decide)) ?_
    refine .cons (.quoted (by decide) (by decide) (by decide) (by decide)) (by decide)
      (hgap (by decide)) ?_
    refine .cons (.phrase (by decide) (by decide)) (by decide) (hgap (by decide)) ?_
    exact .last (.word (by decide) (hsolid (by decide)) (by decide) hword)
  obtain ⟨hscan, htexts⟩ :=
    sentence_read_back (.startOfDay ⟨2024, 1, 15, by decide⟩) hsentence
  exact ⟨hsentence, hscan, htexts.trans (by decide)⟩

end MailSearch
