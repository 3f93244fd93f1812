import Mathlib
import MailSearch.Query.Parsed

/-!
# What the tokens of a query cover

* `Token.Spell ts cs`: the tokens `ts`, each with a text of its own, spell the text `cs` with only
  blanks before, between and after them. `Token.scan_spell`: the tokens of a query spell it.
* `Token.StartsTerm cs`: the text starts as a term does. No word of a query does, and no word holds
  a blank (`Token.word_of_mem_scan`).
* `query_spelled_without_leaks`: both at once, for the texts that a query searches for.
-/

namespace MailSearch

open Text Calendar

namespace Token

/-- The tokens in order, with only blanks before, between and after them, spell the text. -/
inductive Spell : List Token → List Char → Prop
  | nil {gap : List Char} (blank : ∀ c ∈ gap, isBlank c = true) : Spell [] gap
  | cons {gap rest : List Char} {t : Token} {ts : List Token}
      (blank : ∀ c ∈ gap, isBlank c = true) (nonempty : t.source ≠ []) (tail : Spell ts rest) :
      Spell (t :: ts) (gap ++ (t.source ++ rest))

/-- The text starts with a minus, or none, an operator's keyword in any ASCII case, and a colon. -/
def StartsTerm (cs : List Char) : Prop :=
  ∃ (minus keyword rest : List Char) (op : Operator), (minus = [] ∨ minus = ['-']) ∧
    keyword.map Char.toLower = op.keyword.toList ∧ cs = minus ++ (keyword ++ ':' :: rest)

/-! ## The scanner's steps -/

theorem scan_of_trimLeft_nil {cs : List Char} (h : trimLeft cs = []) : scan cs = [] := by
  rw [scan]
  split
  · rfl
  · rename_i h'
    rw [h] at h'
    cases h'

theorem scan_of_trimLeft_cons {cs rest : List Char} {c : Char} (h : trimLeft cs = c :: rest) :
    scan cs = (first c rest).1 :: scan (first c rest).2 := by
  rw [scan]
  split
  · rename_i h'
    rw [h] at h'
    cases h'
  · rename_i h'
    rw [h] at h'
    cases h'
    rfl

/-- The blanks that a text starts with, and the rest. -/
theorem exists_gap (cs : List Char) :
    ∃ gap, (∀ c ∈ gap, isBlank c = true) ∧ cs = gap ++ trimLeft cs :=
  ⟨cs.takeWhile isBlank, fun _ hc => List.all_eq_true.mp List.all_takeWhile _ hc,
    List.takeWhile_append_dropWhile.symm⟩

/-- What holds of every first token of a text holds of every token. -/
theorem forall_mem_scan {P : Token → Prop}
    (h : ∀ c cs, isBlank c = false → P (first c cs).1) (cs : List Char) : ∀ t ∈ scan cs, P t := by
  induction cs using scan.induct with
  | case1 cs hcs =>
    rw [scan_of_trimLeft_nil hcs]
    intro t ht
    cases ht
  | case2 cs c rest hcs ih =>
    rw [scan_of_trimLeft_cons hcs]
    intro t ht
    rcases List.mem_cons.mp ht with rfl | ht
    · exact h c rest (trimLeft_head_not_blank hcs)
    · exact ih t ht

/-- The tokens of a text spell it. -/
theorem scan_spell (cs : List Char) : Spell (scan cs) cs := by
  induction cs using scan.induct with
  | case1 cs hcs =>
    obtain ⟨gap, hblank, hgap⟩ := exists_gap cs
    rw [hcs, List.append_nil] at hgap
    rw [scan_of_trimLeft_nil hcs, hgap]
    exact .nil hblank
  | case2 cs c rest hcs ih =>
    obtain ⟨gap, hblank, hgap⟩ := exists_gap cs
    have h := Spell.cons hblank (source_ne_nil c rest) ih
    rw [first_append, ← hcs, ← hgap] at h
    rw [scan_of_trimLeft_cons hcs]
    exact h

/-! ## Phrases -/

theorem closedPhrase?_content {cs content rest : List Char}
    (h : closedPhrase? cs = some (content, rest)) : content ≠ [] ∧ '"' ∉ content := by
  unfold closedPhrase? at h
  split at h
  · rename_i cs
    split at h
    · rename_i c content d rest hc hd
      cases h
      refine ⟨List.cons_ne_nil _ _, fun hq => ?_⟩
      rw [← hc] at hq
      have := List.all_eq_true.mp List.all_takeWhile _ hq
      simp [isQuote] at this
    · cases h
  · cases h

theorem phrase_of_first {c : Char} {cs content : List Char} (h : (first c cs).1 = .phrase content) :
    content ≠ [] ∧ '"' ∉ content := by
  unfold first at h
  split at h
  · rename_i hp
    cases h
    exact closedPhrase?_content hp
  · split at h <;> cases h

/-- A phrase of a query is not empty and holds no quote. -/
theorem phrase_of_mem_scan {cs content : List Char} (h : .phrase content ∈ scan cs) :
    content ≠ [] ∧ '"' ∉ content :=
  forall_mem_scan (P := fun t => ∀ content, t = .phrase content → content ≠ [] ∧ '"' ∉ content)
    (fun _ _ _ _ h => phrase_of_first h) cs _ h _ rfl

/-! ## Words -/

theorem blank_of_mem_wordRun {cs : List Char} : ∀ c ∈ (wordRun cs).1, isBlank c = false := by
  induction cs with
  | nil => simp [wordRun]
  | cons d ds ih =>
    unfold wordRun
    split
    · simp
    · rename_i h
      simp only [Bool.or_eq_true, not_or, Bool.not_eq_true] at h
      intro c hc
      rcases List.mem_cons.mp hc with rfl | hc
      · exact h.1
      · exact ih c hc

theorem ofKeyword?_eq_of_lower {keyword : List Char} {op : Operator}
    (h : keyword.map Char.toLower = op.keyword.toList) :
    Operator.ofKeyword? keyword = some op := by
  rw [← Operator.ofKeyword?_keyword op]
  unfold Operator.ofKeyword?
  rw [h]
  cases op <;> rfl

theorem isKeywordChar_of_toLower {c : Char} (h : isKeywordChar c.toLower = true) :
    isKeywordChar c = true := by
  by_cases hu : c.isUpper = true
  · simp [isKeywordChar, Char.isAlpha, hu]
  · have : c.toLower = c := by
      unfold Char.toLower
      rw [dif_neg]
      simpa [Char.isUpper] using hu
    rwa [this] at h

theorem isKeywordChar_keyword (op : Operator) : op.keyword.toList.all isKeywordChar = true := by
  cases op <;> decide

/-- Every character of an operator's keyword, in any case, can stand in a keyword. -/
theorem isKeywordChar_of_mem {keyword : List Char} {op : Operator}
    (h : keyword.map Char.toLower = op.keyword.toList) : ∀ c ∈ keyword, isKeywordChar c = true := by
  intro c hc
  apply isKeywordChar_of_toLower
  have hall := isKeywordChar_keyword op
  rw [← h] at hall
  exact List.all_eq_true.mp hall _ (List.mem_map_of_mem hc)

theorem keyword_ne_nil {keyword : List Char} {op : Operator}
    (h : keyword.map Char.toLower = op.keyword.toList) : keyword ≠ [] := by
  rintro rfl
  cases op <;> cases h

/-- The start of a term is found where one is written. -/
theorem termStart?_append {keyword : List Char} {op : Operator}
    (h : keyword.map Char.toLower = op.keyword.toList) (negated : Bool) (rest : List Char) :
    termStart? ((if negated then ['-'] else []) ++ keyword ++ ':' :: rest) =
      some (negated, keyword, op, rest) := by
  have hchars := isKeywordChar_of_mem h
  have hcolon : isKeywordChar ':' = false := by decide
  have hdrop : (keyword ++ ':' :: rest).dropWhile isKeywordChar = ':' :: rest := by
    rw [List.dropWhile_append_of_pos hchars, List.dropWhile_cons_of_neg (by simp [hcolon])]
  have htake : (keyword ++ ':' :: rest).takeWhile isKeywordChar = keyword := by
    rw [List.takeWhile_append_of_pos hchars, List.takeWhile_cons_of_neg (by simp [hcolon]),
      List.append_nil]
  cases negated with
  | true => simp [termStart?, hdrop, htake, ofKeyword?_eq_of_lower h]
  | false =>
    obtain ⟨k, ks, rfl⟩ := List.exists_cons_of_ne_nil (keyword_ne_nil h)
    have hminus : k ≠ '-' := by
      rintro rfl
      exact absurd (hchars '-' List.mem_cons_self) (by decide)
    simp only [List.cons_append] at hdrop htake
    simp [termStart?, hminus, hdrop, htake, ofKeyword?_eq_of_lower h]

/-- The start of a term is found at the start of every text that continues it. -/
theorem termStart?_of_startsTerm {cs : List Char} (h : StartsTerm cs) (more : List Char) :
    (termStart? (cs ++ more)).isSome = true := by
  obtain ⟨minus, keyword, rest, op, hminus, hkeyword, rfl⟩ := h
  obtain ⟨negated, rfl⟩ : ∃ negated : Bool, minus = if negated then ['-'] else [] := by
    rcases hminus with rfl | rfl
    · exact ⟨false, rfl⟩
    · exact ⟨true, rfl⟩
  have hstart := termStart?_append hkeyword negated (rest ++ more)
  simp only [List.append_assoc, List.cons_append] at hstart ⊢
  rw [hstart]
  rfl

theorem word_of_first {c : Char} {cs source : List Char} (hc : isBlank c = false)
    (h : (first c cs).1 = .word source) :
    (∀ d ∈ source, isBlank d = false) ∧ ¬ StartsTerm source := by
  unfold first at h
  split at h
  · cases h
  · split at h
    · cases h
    · rename_i hterm
      cases h
      refine ⟨fun d hd => ?_, fun hs => ?_⟩
      · rcases List.mem_cons.mp hd with rfl | hd
        · exact hc
        · exact blank_of_mem_wordRun d hd
      · have := termStart?_of_startsTerm hs (wordRun cs).2
        rw [List.cons_append, wordRun_append, hterm] at this
        cases this

theorem word_of_mem_scan {cs source : List Char} (h : .word source ∈ scan cs) :
    (∀ d ∈ source, isBlank d = false) ∧ ¬ StartsTerm source :=
  forall_mem_scan (P := fun t => ∀ source, t = .word source →
      (∀ d ∈ source, isBlank d = false) ∧ ¬ StartsTerm source)
    (fun _ _ hc _ h => word_of_first hc h) cs _ h _ rfl

end Token

/-! ## Queries -/

/-- A text that is searched for is the content of a phrase or a word of the query. -/
theorem ParsedQuery.mem_texts {now : Timestamp} {query text : String}
    (h : text ∈ (ParsedQuery.parse now query).texts) :
    .phrase text.toList ∈ Token.scan query.toList ∨
      .word text.toList ∈ Token.scan query.toList := by
  simp only [parse, ofTokens, List.mem_append, List.mem_filterMap] at h
  rcases h with ⟨t, ht, htext⟩ | ⟨t, ht, htext⟩
  · cases t with
    | phrase content =>
      cases htext
      exact .inl (by simpa using ht)
    | word source => cases htext
    | term negated keyword op value => cases htext
  · cases t with
    | word source =>
      cases htext
      exact .inr (by simpa using ht)
    | phrase content => cases htext
    | term negated keyword op value => cases htext

/-- **Nothing lost, no term leaked.** The tokens of a query spell it, and a text that it searches
for is the content of a closed phrase, or it holds no blank and does not start as a term. -/
theorem query_spelled_without_leaks (now : Timestamp) (query : String) :
    Token.Spell (Token.scan query.toList) query.toList ∧
    ∀ text ∈ (ParsedQuery.parse now query).texts,
      (.phrase text.toList ∈ Token.scan query.toList ∧ text ≠ "" ∧ '"' ∉ text.toList) ∨
      ((∀ c ∈ text.toList, isBlank c = false) ∧ ¬ Token.StartsTerm text.toList) := by
  refine ⟨Token.scan_spell _, fun text htext => ?_⟩
  rcases ParsedQuery.mem_texts htext with h | h
  · obtain ⟨hne, hquote⟩ := Token.phrase_of_mem_scan h
    exact .inl ⟨h, fun h0 => hne (by rw [h0]; rfl), hquote⟩
  · exact .inr (Token.word_of_mem_scan h)

end MailSearch
