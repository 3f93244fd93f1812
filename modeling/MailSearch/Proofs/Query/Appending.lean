import MailSearch.Proofs.Query.Kept
import MailSearch.Proofs.Query.Parts

/-!
# What is written behind a query

A quote opens a phrase if another one closes it, however far behind. So what stands at the end of a
query can depend on what is written after it. A text without a quote closes no phrase, and behind a
gap it continues no word and no value: the query before it is read as it was.

* `Token.first_append_gap`: the first token of a text, and what is left of it, with such a text
  behind it. Each reader has a lemma of its own.
* `Token.scan_append`: the tokens of the two texts are those of the first one and then those of the
  second one, whatever the first one is.
* `ParsedQuery.ofTokens_concat_word`, `ParsedQuery.ofTokens_concat_rejected`: what one more word, or
  one more term that is set aside, changes.
-/

namespace MailSearch

open Text Calendar

namespace Token

/-! ## The readers -/

section Readers

variable {tail : List Char}

/-- No phrase is closed by a text without a quote. -/
theorem closedPhrase?_append_unquoted (hquote : '"' ∉ tail) (cs : List Char) :
    closedPhrase? (cs ++ tail) = (closedPhrase? cs).map fun p => (p.1, p.2 ++ tail) := by
  have hpass : ∀ c ∈ tail, (!isQuote c) = true := by
    intro c hc
    have hne : c ≠ '"' := fun h => hquote (h ▸ hc)
    simpa [isQuote] using hne
  cases cs with
  | nil =>
    cases tail with
    | nil => rfl
    | cons t tail => exact closedPhrase?_of_ne (fun h => hquote (h ▸ List.mem_cons_self)) tail
  | cons c cs =>
    by_cases hc : c = '"'
    · subst hc
      simp only [List.cons_append, closedPhrase?]
      cases hrest : cs.dropWhile (!isQuote ·) with
      | nil =>
        have hdrop : (cs ++ tail).dropWhile (!isQuote ·) = [] := by
          rw [List.dropWhile_append, hrest]
          simpa using hpass
        rw [hdrop]
        split <;> split <;> simp_all
      | cons q rest =>
        have hdrop : (cs ++ tail).dropWhile (!isQuote ·) = q :: (rest ++ tail) := by
          rw [List.dropWhile_append, hrest]
          rfl
        have htake : (cs ++ tail).takeWhile (!isQuote ·) = cs.takeWhile (!isQuote ·) := by
          have hlength := congrArg List.length
            (List.takeWhile_append_dropWhile (p := (!isQuote ·)) (l := cs))
          rw [hrest, List.length_append, List.length_cons] at hlength
          rw [List.takeWhile_append, if_neg (by omega)]
        rw [hdrop, htake]
        cases cs.takeWhile (!isQuote ·) <;> rfl
    · rw [List.cons_append, closedPhrase?_of_ne hc, closedPhrase?_of_ne hc]
      rfl

theorem AtGap.append {cs : List Char} (h : AtGap cs) (htail : AtGap tail) : AtGap (cs ++ tail) := by
  cases cs with
  | nil => exact htail
  | cons c cs => exact h

theorem bareRun_append_gap (hgap : AtGap tail) (cs : List Char) :
    bareRun (cs ++ tail) = ((bareRun cs).1, (bareRun cs).2 ++ tail) := by
  have hsolid : ∀ c ∈ (bareRun cs).1, isBlank c = false := fun c hc => by
    simpa using List.all_eq_true.mp List.all_takeWhile c hc
  have hsplit : (bareRun cs).1 ++ (bareRun cs).2 = cs := List.takeWhile_append_dropWhile
  have hrun := bareRun_append hsolid ((atGap_bareRun cs).append hgap)
  rwa [← List.append_assoc, hsplit] at hrun

theorem wordRun_append_gap (hquote : '"' ∉ tail) (hgap : AtGap tail) (cs : List Char) :
    wordRun (cs ++ tail) = ((wordRun cs).1, (wordRun cs).2 ++ tail) := by
  induction cs with
  | nil =>
    cases tail with
    | nil => rfl
    | cons t tail => simp [wordRun, hgap t rfl]
  | cons c cs ih =>
    have hphrase := closedPhrase?_append_unquoted hquote (c :: cs)
    rw [List.cons_append] at hphrase
    simp only [List.cons_append, wordRun, hphrase, Option.isSome_map, ih]
    split <;> rfl

/-- The start of a term has no blank in it, so it does not reach into the gap. -/
theorem termStart?_append_gap (hgap : AtGap tail) (cs : List Char) :
    termStart? (cs ++ tail) =
      (termStart? cs).map fun p => (p.1, p.2.1, p.2.2.1, p.2.2.2 ++ tail) := by
  cases h : termStart? cs with
  | some start =>
    obtain ⟨negated, keyword, op, rest⟩ := start
    obtain ⟨hop, rfl⟩ := termStart?_eq_some h
    have hkeyword := (Operator.keyword_of_ofKeyword? hop).symm
    rw [List.append_assoc, List.cons_append, termStart?_append hkeyword]
    rfl
  | none =>
    have hnot : ¬ StartsTerm cs := by
      intro hstarts
      have hstart := termStart?_of_startsTerm hstarts []
      rw [List.append_nil, h] at hstart
      cases hstart
    rw [termStart?_of_not_startsTerm hnot hgap]
    rfl

theorem termValue_append_gap (hquote : '"' ∉ tail) (hgap : AtGap tail) (op : Operator)
    (cs : List Char) :
    termValue op (cs ++ tail) = ((termValue op cs).1, (termValue op cs).2 ++ tail) := by
  cases cs with
  | nil =>
    cases tail with
    | nil => rfl
    | cons t tail => simp [termValue, hgap t rfl]
  | cons c cs =>
    have hphrase := closedPhrase?_append_unquoted hquote (c :: cs)
    have hrun := bareRun_append_gap hgap (c :: cs)
    rw [List.cons_append] at hphrase hrun ⊢
    by_cases hblank : isBlank c = true
    · simp [termValue, hblank]
    · cases htakes : op.takesPhrase with
      | false => simp [termValue, hblank, htakes, hrun]
      | true =>
        cases hclosed : closedPhrase? (c :: cs) with
        | none => simp [termValue, hblank, htakes, hphrase, hclosed, hrun]
        | some p => simp [termValue, hblank, htakes, hphrase, hclosed]

/-- A token is read as it is without the text behind the gap, and that text is left. -/
theorem first_append_gap (hquote : '"' ∉ tail) (hgap : AtGap tail) (c : Char) (cs : List Char) :
    first c (cs ++ tail) = ((first c cs).1, (first c cs).2 ++ tail) := by
  have hphrase := closedPhrase?_append_unquoted hquote (c :: cs)
  have hstart := termStart?_append_gap hgap (c :: cs)
  rw [List.cons_append] at hphrase hstart
  unfold first
  rw [hphrase, hstart]
  cases hclosed : closedPhrase? (c :: cs) with
  | some p => rfl
  | none =>
    cases hterm : termStart? (c :: cs) with
    | some p => simp [termValue_append_gap hquote hgap]
    | none => simp [wordRun_append_gap hquote hgap]

end Readers

/-! ## All tokens -/

theorem trimLeft_append_of_cons {cs rest : List Char} {c : Char} (h : trimLeft cs = c :: rest)
    (tail : List Char) : trimLeft (cs ++ tail) = c :: (rest ++ tail) := by
  obtain ⟨gap, hgap, hsplit⟩ := exists_gap cs
  rw [hsplit, h, List.append_assoc, trimLeft_append hgap, List.cons_append]
  exact trimLeft_cons (trimLeft_head_not_blank h) _

/-- **What stands behind.** A text without a quote, behind a gap, is read apart from any text that
stands before it. -/
theorem scan_append {tail : List Char} (hquote : '"' ∉ tail) (hgap : AtGap tail) (cs : List Char) :
    scan (cs ++ tail) = scan cs ++ scan tail := by
  induction cs using scan.induct with
  | case1 cs hcs =>
    obtain ⟨gap, hblank, hsplit⟩ := exists_gap cs
    rw [hcs, List.append_nil] at hsplit
    rw [scan_of_trimLeft_nil hcs, List.nil_append, hsplit, scan_gap hblank]
  | case2 cs c rest hcs ih =>
    rw [scan_of_trimLeft_cons hcs, scan_of_trimLeft_cons (trimLeft_append_of_cons hcs tail),
      first_append_gap hquote hgap, ih, List.cons_append]

/-- A token that is read alone is read behind every text, with a blank between the two. -/
theorem scan_append_token {t : Token} (hquote : '"' ∉ t.source) (ht : scan t.source = [t])
    (cs : List Char) : scan (cs ++ ' ' :: t.source) = scan cs ++ [t] := by
  have hunquoted : '"' ∉ ' ' :: t.source := by
    rw [List.mem_cons, not_or]
    exact ⟨by decide, hquote⟩
  have hgap : AtGap (' ' :: t.source) :=
    atGap_append (List.cons_ne_nil _ _) isBlank_of_mem_space t.source
  have hscan : scan (' ' :: t.source) = [t] := (scan_gap isBlank_of_mem_space t.source).trans ht
  rw [scan_append hunquoted hgap, hscan]

end Token

namespace ParsedQuery

/-! ## One more token -/

/-- The query with a token behind it asks for what its tokens and that one ask for. -/
theorem parse_append_token (now : Timestamp) (query : String) {t : Token} (hquote : '"' ∉ t.source)
    (ht : Token.scan t.source = [t]) :
    parse now (query ++ " " ++ String.ofList t.source) =
      ofTokens now (Token.scan query.toList ++ [t]) := by
  have htext : (query ++ " " ++ String.ofList t.source).toList =
      query.toList ++ ' ' :: t.source := by
    simp
  rw [parse, htext, Token.scan_append_token hquote ht]

variable {now : Timestamp} {tokens : List Token}

/-- One more word is one more text to search for. -/
theorem ofTokens_concat_word (source : List Char) :
    ofTokens now (tokens ++ [.word source]) =
      { ofTokens now tokens with
        texts := (ofTokens now tokens).texts ++ [String.ofList source] } := by
  simp [ofTokens, step, phraseText?, wordText?]

/-- One more term that is set aside is one more text in the list of those. -/
theorem ofTokens_concat_rejected {t : Token} (h : t.isRejected now = true) :
    ofTokens now (tokens ++ [t]) =
      { ofTokens now tokens with
        ignored := (ofTokens now tokens).ignored ++ [String.ofList t.source] } := by
  have hstep : step now (tokens.foldl (step now) {}) t =
      { tokens.foldl (step now) {} with
        ignored := (tokens.foldl (step now) {}).ignored ++ [String.ofList t.source] } := by
    obtain ⟨-, -, hrej, -⟩ | ⟨-, -, hstep⟩ | ⟨-, hrej, -⟩ :=
      step_cases now (tokens.foldl (step now) {}) t
    · rw [h] at hrej
      cases hrej
    · exact hstep
    · rw [h] at hrej
      cases hrej
  cases t with
  | word source => cases h
  | phrase content => cases h
  | term negated keyword op value =>
    simp only [ofTokens, List.foldl_append, List.foldl_cons, List.foldl_nil, hstep,
      List.filterMap_append, List.filterMap_cons, phraseText?, wordText?, List.filterMap_nil,
      List.append_nil]

end ParsedQuery

end MailSearch
