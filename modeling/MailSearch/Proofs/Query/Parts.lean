import MailSearch.Proofs.Query.Grammar
import MailSearch.Proofs.Text.Parts

/-!
# The texts of a query are parts of it

A word or a phrase of a query stands in it between blanks, quotes or ends
(`Token.isPart_of_scan`). So it folds within the query as it does alone.

The scanner cuts a query in two after each token. `Token.IsCut` says where that can be: behind a
stop, before a blank or the end, or before a closed phrase, whose content has a quote in front.
`Token.isCut_of_first` is the step, and `Token.isPart_of_scan` the run.
-/

namespace MailSearch

open Text

namespace Token

/-- What a word or a phrase is searched for as. -/
def text? : Token → Option (List Char)
  | word source => some source
  | phrase content => some content
  | term _ _ _ _ => none

/-- Where the scanner may cut a text in two. -/
def IsCut (before rest : List Char) : Prop :=
  EndsAtStop before ∨ AtGap rest ∨ (closedPhrase? rest).isSome = true

theorem isStop_quote : isStop '"' = true := by decide

theorem AtGap.startsAtStop {cs : List Char} (h : AtGap cs) : StartsAtStop cs :=
  fun c hc => isStop_of_isBlank (h c hc)

theorem startsAtStop_of_closedPhrase? {cs : List Char} (h : (closedPhrase? cs).isSome = true) :
    StartsAtStop cs := by
  obtain ⟨⟨content, rest⟩, hphrase⟩ := Option.isSome_iff_exists.mp h
  rw [closedPhrase?_eq hphrase]
  exact startsAtStop_cons isStop_quote _

/-! ## Where the readers leave off -/

theorem atGap_bareRun (cs : List Char) : AtGap (bareRun cs).2 := by
  intro c hc
  have hhead := List.head?_dropWhile_not (!isBlank ·) cs
  rw [show (cs.dropWhile (!isBlank ·)).head? = some c from hc] at hhead
  simpa using hhead

theorem wordRun_rest (cs : List Char) :
    AtGap (wordRun cs).2 ∨ (closedPhrase? (wordRun cs).2).isSome = true := by
  induction cs with
  | nil => exact .inl atGap_nil
  | cons c cs ih =>
    unfold wordRun
    split
    · rename_i h
      rcases Bool.or_eq_true_iff.mp h with hblank | hphrase
      · exact .inl (atGap_append (List.cons_ne_nil c []) (by simpa using hblank) cs)
      · exact .inr hphrase
    · exact ih

theorem isCut_of_termValue (op : Operator) (cs before : List Char) :
    IsCut (before ++ (termValue op cs).1.source) (termValue op cs).2 := by
  unfold termValue
  split
  · exact .inr (.inl atGap_nil)
  · rename_i c cs
    split
    · rename_i hblank
      exact .inr (.inl (atGap_append (List.cons_ne_nil c []) (by simpa using hblank) cs))
    · split
      · rename_i content rest hphrase
        refine .inl ?_
        rw [TermValue.source, ← List.cons_append, ← List.append_assoc]
        exact endsAtStop_concat isStop_quote _
      · exact .inr (.inl (atGap_bareRun (c :: cs)))

/-- The value of a term that starts a text is a part of the text. -/
theorem isPart_of_termValue {op : Operator} {cs content : List Char}
    (h : (termValue op cs).1.content? = some content) : IsPart content cs := by
  unfold termValue at h
  split at h
  · cases h
  · rename_i c cs
    split at h
    · cases h
    · split at h
      · rename_i rest hphrase
        cases h
        have hphrase : closedPhrase? (c :: cs) = some (content, rest) := by
          split at hphrase
          · exact hphrase
          · cases hphrase
        rw [closedPhrase?_eq hphrase]
        exact ⟨['"'], '"' :: rest, rfl, endsAtStop_concat isStop_quote [],
          startsAtStop_cons isStop_quote _⟩
      · cases h
        exact ⟨[], (bareRun (c :: cs)).2, List.takeWhile_append_dropWhile.symm, endsAtStop_nil,
          (atGap_bareRun (c :: cs)).startsAtStop⟩

/-- After a token, the text is cut. -/
theorem isCut_of_first (c : Char) (cs before : List Char) :
    IsCut (before ++ (first c cs).1.source) (first c cs).2 := by
  unfold first
  split
  · refine .inl ?_
    rw [source, ← List.cons_append, ← List.append_assoc]
    exact endsAtStop_concat isStop_quote _
  · split
    · rename_i negated keyword op rest hstart
      have hvalue := isCut_of_termValue op rest
        (before ++ ((if negated then ['-'] else []) ++ keyword ++ [':']))
      simpa [source] using hvalue
    · exact .inr (wordRun_rest cs)

/-- Where a text was cut, the word or phrase that comes first is a part of it. -/
theorem isPart_of_first {before cs content : List Char} {c : Char} (hblank : isBlank c = false)
    (hcut : IsCut before (c :: cs)) (h : (first c cs).1.text? = some content) :
    IsPart content (before ++ c :: cs) := by
  unfold first at h
  split at h
  · rename_i rest hphrase
    cases h
    refine ⟨before ++ ['"'], '"' :: rest, ?_, endsAtStop_concat isStop_quote _,
      startsAtStop_cons isStop_quote _⟩
    rw [closedPhrase?_eq hphrase, List.append_assoc, List.singleton_append]
  · rename_i hnone
    split at h
    · cases h
    · cases h
      have hbefore : EndsAtStop before := by
        rcases hcut with hstop | hgap | hphrase
        · exact hstop
        · rw [hgap c rfl] at hblank
          cases hblank
        · rw [hnone] at hphrase
          cases hphrase
      have hrest : StartsAtStop (wordRun cs).2 := by
        rcases wordRun_rest cs with hgap | hphrase
        · exact hgap.startsAtStop
        · exact startsAtStop_of_closedPhrase? hphrase
      exact ⟨before, (wordRun cs).2, by rw [List.cons_append, wordRun_append], hbefore, hrest⟩

/-! ## All tokens -/

/-- The words and phrases behind a cut are parts of the text. -/
theorem isPart_of_scan {before cs : List Char} (hcut : IsCut before cs) {t : Token}
    (ht : t ∈ scan cs) {content : List Char} (htext : t.text? = some content) :
    IsPart content (before ++ cs) := by
  induction cs using scan.induct generalizing before with
  | case1 cs hcs =>
    rw [scan_of_trimLeft_nil hcs] at ht
    cases ht
  | case2 cs c rest hcs ih =>
    obtain ⟨gap, hgap, hsplit⟩ := exists_gap cs
    rw [hcs] at hsplit
    -- The blanks in front belong to what was read: the text is cut behind them as well.
    have hcut' : IsCut (before ++ gap) (c :: rest) := by
      rcases List.eq_nil_or_concat gap with rfl | ⟨blanks, b, rfl⟩
      · rw [List.append_nil]
        rwa [hsplit] at hcut
      · rw [List.concat_eq_append] at hgap ⊢
        rw [← List.append_assoc]
        exact .inl (endsAtStop_concat (isStop_of_isBlank (hgap b (by simp))) _)
    have htext' : before ++ cs = (before ++ gap) ++ c :: rest := by
      rw [List.append_assoc, ← hsplit]
    rw [scan_of_trimLeft_cons hcs] at ht
    rcases List.mem_cons.mp ht with rfl | ht
    · rw [htext']
      exact isPart_of_first (trimLeft_head_not_blank hcs) hcut' htext
    · have htail := ih (isCut_of_first c rest (before ++ gap)) ht
      rwa [List.append_assoc, first_append, ← htext'] at htail

end Token

end MailSearch
