import MailSearch.Clause.Pattern
import MailSearch.Proofs.Text.Folding
import MailSearch.Text.Containment

/-!
# What patterns match

* `beforeNul_lowercase`: a text folds up to its first NUL character as if it ended there.
* `hasForm_anyText_iff`: a `%` stands for any start of the text.
* `hasForm_escapePattern_iff`: an escaped text stands for the texts that patterns see as it,
  whatever stands behind it in the pattern.
* `like_likePattern_iff`: so the pattern of a needle matches the texts that contain it before they
  end, as far as patterns can tell. `like_likePattern_iff_of_nul`: the pattern of a needle that ends
  early matches the texts that end with what is left of it.
* `like_lowercase`: in folded plain texts patterns tell every character from every other
  (`IsExact`).
* `like_of_infix`: a needle that stands in a text before it ends is found whatever both hold.
-/

namespace MailSearch

open Text

variable {needle pattern text : List Char}

/-! ## Where texts end -/

theorem beforeNul_nul (cs : List Char) : beforeNul ('\u0000' :: cs) = [] := rfl

theorem beforeNul_append {cs : List Char} (h : '\u0000' ∉ cs) (rest : List Char) :
    beforeNul (cs ++ rest) = cs ++ beforeNul rest := by
  refine List.takeWhile_append_of_pos fun c hc => decide_eq_true ?_
  rintro rfl
  exact h hc

theorem beforeNul_cons {c : Char} (h : c ≠ '\u0000') (cs : List Char) :
    beforeNul (c :: cs) = c :: beforeNul cs :=
  beforeNul_append (fun hc => h (List.mem_singleton.mp hc).symm) cs

/-- A text without a NUL character does not end early. -/
theorem beforeNul_of_not_mem {cs : List Char} (h : '\u0000' ∉ cs) : beforeNul cs = cs := by
  have happend := beforeNul_append h []
  rwa [List.append_nil, show beforeNul [] = [] from rfl, List.append_nil] at happend

/-- A text with a NUL character ends at it, whatever follows. -/
theorem beforeNul_append_of_mem {cs : List Char} (h : '\u0000' ∈ cs) (rest : List Char) :
    beforeNul (cs ++ rest) = beforeNul cs := by
  induction cs with
  | nil => cases h
  | cons c cs ih =>
    by_cases hc : c = '\u0000'
    · rw [hc]
      rfl
    · rw [List.cons_append, beforeNul_cons hc, beforeNul_cons hc,
        ih ((List.mem_cons.mp h).resolve_left (Ne.symm hc))]

theorem nul_not_mem_beforeNul (cs : List Char) : '\u0000' ∉ beforeNul cs := by
  induction cs with
  | nil => simp [beforeNul]
  | cons c cs ih =>
    by_cases hc : c = '\u0000'
    · rw [hc, beforeNul_nul]
      exact List.not_mem_nil
    · rw [beforeNul_cons hc, List.mem_cons, or_iff_right (Ne.symm hc)]
      exact ih

theorem nul_not_cased : isCased '\u0000' = false ∧ isCaseIgnorable '\u0000' = false := by
  decide +kernel

/-- For casing too, a text ends at a NUL character. -/
theorem startsCased_beforeNul (cs : List Char) : startsCased (beforeNul cs) = startsCased cs := by
  induction cs with
  | nil => rfl
  | cons c cs ih =>
    by_cases hc : c = '\u0000'
    · obtain ⟨hcased, hignorable⟩ := nul_not_cased
      rw [hc, beforeNul_nul, startsCased, startsCased, hcased, hignorable]
      rfl
    · rw [beforeNul_cons hc, startsCased, startsCased, ih]

theorem beforeNul_lowerFrom (afterCased : Bool) (cs : List Char) :
    beforeNul (lowerFrom afterCased cs) = lowerFrom afterCased (beforeNul cs) := by
  induction cs generalizing afterCased with
  | nil => rfl
  | cons c cs ih =>
    by_cases hc : c = '\u0000'
    · rw [hc, lowerFrom, lowerForm_nul, List.singleton_append, beforeNul_nul, beforeNul_nul]
      rfl
    · have hform : lowerForm afterCased c (beforeNul cs) = lowerForm afterCased c cs := by
        rw [lowerForm, lowerForm, endsWord, endsWord, startsCased_beforeNul]
      rw [beforeNul_cons hc, lowerFrom, lowerFrom, hform,
        beforeNul_append fun h => nul_not_mem_lowerForm hc afterCased cs _ h rfl, ih]

/-- Up to its first NUL character, a text folds as if it ended there. -/
theorem beforeNul_lowercase (cs : List Char) :
    beforeNul (lowercase cs) = lowercase (beforeNul cs) := beforeNul_lowerFrom false cs

theorem beforeNul_escapePattern (needle rest : List Char) :
    beforeNul (escapePattern needle ++ rest) =
      escapePattern (beforeNul needle) ++ if '\u0000' ∈ needle then [] else beforeNul rest := by
  induction needle with
  | nil => rfl
  | cons c cs ih =>
    by_cases hc : c = '\u0000'
    · rw [hc, if_pos List.mem_cons_self]
      rfl
    · have hmem : '\u0000' ∈ c :: cs ↔ '\u0000' ∈ cs := by
        rw [List.mem_cons, or_iff_right (Ne.symm hc)]
      simp only [beforeNul_cons hc, escapePattern, hmem]
      split
      · rw [List.cons_append, List.cons_append, beforeNul_cons (by decide), beforeNul_cons hc, ih]
        rfl
      · rw [List.cons_append, beforeNul_cons hc, ih]
        rfl

/-! ## The parts of a pattern -/

/-- A `%` stands for any start of the text. -/
theorem hasForm_anyText_iff : hasForm ('%' :: pattern) text = true ↔
    ∃ before after, text = before ++ after ∧ hasForm pattern after = true := by
  induction text with
  | nil =>
    rw [hasForm]
    constructor
    · exact fun h => ⟨[], [], rfl, h⟩
    · rintro ⟨before, after, htext, h⟩
      rwa [(List.append_eq_nil_iff.mp htext.symm).2] at h
  | cons c cs ih =>
    rw [hasForm, Bool.or_eq_true, ih]
    constructor
    · rintro (h | ⟨before, after, rfl, h⟩)
      · exact ⟨[], c :: cs, rfl, h⟩
      · exact ⟨c :: before, after, rfl, h⟩
    · rintro ⟨before, after, htext, h⟩
      cases before with
      | nil =>
        rw [List.nil_append] at htext
        exact .inl (htext ▸ h)
      | cons b before =>
        obtain ⟨rfl, rfl⟩ := List.cons.inj htext
        exact .inr ⟨before, after, rfl, h⟩

/-- An escaped character stands for one character, be it a mark of patterns or not. -/
theorem hasForm_escapePattern_cons (p c : Char) (cs : List Char) :
    hasForm (escapePattern (p :: needle) ++ pattern) (c :: cs) =
      (sameChar p c && hasForm (escapePattern needle ++ pattern) cs) := by
  rw [escapePattern]
  split
  · rw [List.cons_append, List.cons_append, hasForm]
  · rename_i h
    rw [List.cons_append, hasForm_plain_cons (by simpa using h)]

theorem hasForm_escapePattern_cons_nil (p : Char) :
    hasForm (escapePattern (p :: needle) ++ pattern) [] = false := by
  rw [escapePattern]
  split
  · simp [hasForm]
  · rename_i h
    rw [List.cons_append, hasForm_plain_nil (by simpa using h)]

/-- An escaped text stands for the texts that patterns see as it. -/
theorem hasForm_escapePattern_iff : hasForm (escapePattern needle ++ pattern) text = true ↔
    ∃ part after, text = part ++ after ∧ part.map patternChar = needle.map patternChar ∧
      hasForm pattern after = true := by
  induction needle generalizing text with
  | nil =>
    rw [escapePattern, List.nil_append, List.map_nil]
    constructor
    · exact fun h => ⟨[], text, rfl, rfl, h⟩
    · rintro ⟨part, after, rfl, hpart, h⟩
      rwa [List.map_eq_nil_iff.mp hpart]
  | cons p needle ih =>
    cases text with
    | nil =>
      rw [hasForm_escapePattern_cons_nil]
      constructor
      · exact fun h => nomatch h
      · rintro ⟨part, after, htext, hpart, -⟩
        rw [(List.append_eq_nil_iff.mp htext.symm).1] at hpart
        cases hpart
    | cons c cs =>
      rw [hasForm_escapePattern_cons, Bool.and_eq_true, ih, sameChar, decide_eq_true_iff]
      constructor
      · rintro ⟨hc, part, after, rfl, hpart, h⟩
        exact ⟨c :: part, after, rfl, by rw [List.map_cons, List.map_cons, hc, hpart], h⟩
      · rintro ⟨part, after, htext, hpart, h⟩
        obtain ⟨d, part, rfl, hd, hrest⟩ := List.map_eq_cons_iff.mp hpart
        obtain ⟨rfl, rfl⟩ := List.cons.inj htext
        exact ⟨hd.symm, part, after, rfl, hrest, h⟩

/-! ## The pattern of a needle -/

/-- The pattern of a needle matches the texts that contain it before they end, as far as patterns
can tell. -/
theorem like_likePattern_iff (h : '\u0000' ∉ needle) : like (likePattern needle) text = true ↔
    needle.map patternChar <:+: (beforeNul text).map patternChar := by
  have hpattern : beforeNul (likePattern needle) = likePattern needle := by
    rw [likePattern, beforeNul_cons (by decide), beforeNul_escapePattern, if_neg h,
      beforeNul_of_not_mem h]
    rfl
  rw [like, hpattern, likePattern, hasForm_anyText_iff]
  simp only [hasForm_escapePattern_iff]
  constructor
  · rintro ⟨before, _, htext, part, after, rfl, hpart, -⟩
    refine ⟨before.map patternChar, after.map patternChar, ?_⟩
    rw [htext, List.map_append, List.map_append, hpart, List.append_assoc]
  · intro h
    obtain ⟨part, ⟨before, after, htext⟩, hpart⟩ := List.infix_map_iff.mp h
    exact ⟨before, part ++ after, by rw [← htext, List.append_assoc], part, after, rfl, hpart.symm,
      hasForm_anyText after⟩

/-- The pattern of a needle with a NUL character ends with what stands before it, and so do the
texts that it matches. -/
theorem like_likePattern_iff_of_nul (h : '\u0000' ∈ needle) :
    like (likePattern needle) text = true ↔
      (beforeNul needle).map patternChar <:+ (beforeNul text).map patternChar := by
  have hpattern : beforeNul (likePattern needle) = '%' :: escapePattern (beforeNul needle) := by
    rw [likePattern, beforeNul_cons (by decide), beforeNul_escapePattern, if_pos h,
      List.append_nil]
  have hend {part : List Char} : hasForm (escapePattern (beforeNul needle)) part = true ↔
      part.map patternChar = (beforeNul needle).map patternChar := by
    rw [← List.append_nil (escapePattern _), hasForm_escapePattern_iff]
    constructor
    · rintro ⟨part, after, rfl, hpart, hafter⟩
      rw [hasForm] at hafter
      rwa [List.isEmpty_iff.mp hafter, List.append_nil]
    · exact fun hpart => ⟨part, [], (List.append_nil part).symm, hpart, by rw [hasForm]; rfl⟩
  rw [like, hpattern, hasForm_anyText_iff]
  simp only [hend]
  constructor
  · rintro ⟨before, part, htext, hpart⟩
    exact ⟨before.map patternChar, by rw [htext, List.map_append, hpart]⟩
  · intro h
    obtain ⟨part, ⟨before, htext⟩, hpart⟩ := List.suffix_map_iff.mp h
    exact ⟨before, part, htext.symm, hpart.symm⟩

/-- Every text that contains the needle before it ends matches its pattern. -/
theorem like_of_infix (h : needle <:+: beforeNul text) : like (likePattern needle) text = true :=
  (like_likePattern_iff fun hnul => nul_not_mem_beforeNul text (h.subset hnul)).mpr
    (h.map patternChar)

/-- A needle that stands in a text and starts before it ends is found, even if it ends with it. -/
theorem like_of_starts {before after : List Char} (h : '\u0000' ∉ before) :
    like (likePattern needle) (before ++ (needle ++ after)) = true := by
  by_cases hneedle : '\u0000' ∈ needle
  · have hend : beforeNul (before ++ (needle ++ after)) = before ++ beforeNul needle := by
      rw [beforeNul_append h, beforeNul_append_of_mem hneedle]
    rw [like_likePattern_iff_of_nul hneedle, hend, List.map_append]
    exact List.suffix_append _ _
  · refine like_of_infix ⟨before, beforeNul after, ?_⟩
    rw [beforeNul_append h, beforeNul_append hneedle, List.append_assoc]

/-! ## Texts that patterns see as they are -/

/-- Patterns see every character of the text as it is, and the text as a whole. -/
structure IsExact (cs : List Char) : Prop where
  patternChar_eq : ∀ c ∈ cs, patternChar c = c
  nul_not_mem : '\u0000' ∉ cs

theorem isExact_lowercase {cs : List Char} (h : IsPlain cs) : IsExact (lowercase cs) where
  patternChar_eq c hc := by
    obtain ⟨-, h1, h2⟩ := isPlain_lowercase h c hc
    unfold patternChar
    rw [if_neg (by omega), toLower_of_mem_lowercase hc]
  nul_not_mem hnul := (isPlain_lowercase h _ hnul).1 rfl

theorem IsExact.map_eq {cs : List Char} (h : IsExact cs) : cs.map patternChar = cs :=
  (List.map_congr_left (g := id) h.patternChar_eq).trans (List.map_id cs)

/-- The pattern of a needle decides whether a text contains it, when patterns see both as they
are. -/
theorem like_likePattern (hn : IsExact needle) (ht : IsExact text) :
    like (likePattern needle) text = occursIn needle text := by
  rw [Bool.eq_iff_iff, like_likePattern_iff hn.nul_not_mem, beforeNul_of_not_mem ht.nul_not_mem,
    hn.map_eq, ht.map_eq, occursIn_iff]

/-- For plain texts, the pattern of a folded needle decides whether the folded text contains it. -/
theorem like_lowercase (hn : IsPlain needle) (ht : IsPlain text) :
    like (likePattern (lowercase needle)) (lowercase text) =
      occursIn (lowercase needle) (lowercase text) :=
  like_likePattern (isExact_lowercase hn) (isExact_lowercase ht)

end MailSearch
