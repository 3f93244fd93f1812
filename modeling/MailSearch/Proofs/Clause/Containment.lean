import MailSearch.Proofs.Clause.Truth

/-!
# Patterns and containment

The store looks for a needle with a pattern, the memory by containment. Percent signs, underscores
and backslashes of a needle stand for themselves in its pattern. But patterns take three characters
for one (`confused`): the replacement character and the two noncharacters at the end of the first
plane. And both patterns and texts end at a NUL character.

* `likeFolded_iff`: the store finds the needles that the text contains before it ends, once the
  three characters are taken for one (`mergedChar`).
* `Exchanges.lowercase_map`: folding sees no difference between the three either, so that a text
  with some of them exchanged for others folds to the folded text, exchanged likewise.
* `likes_contained_iff`: patterns and containment agree in all texts without a NUL character exactly
  for the needles without these characters, and in all texts for the empty needle only.
-/

namespace MailSearch

open Text

/-! ## Characters that patterns confuse -/

/-- The characters that patterns take for one. -/
def confused : List Char := ['\ufffd', '\ufffe', '\uffff']

/-- A character as the store tells it from others when it looks for a folded text. -/
def mergedChar (c : Char) : Char := if c ∈ confused then '\ufffd' else c

theorem mergedChar_of_confused {c : Char} (h : c ∈ confused) : mergedChar c = '\ufffd' := if_pos h

theorem mergedChar_of_not_confused {c : Char} (h : c ∉ confused) : mergedChar c = c := if_neg h

/-- A character that is not confused is told from every other. -/
theorem eq_of_mergedChar_eq {c d : Char} (hc : c ∉ confused) (h : mergedChar d = mergedChar c) :
    d = c := by
  rw [mergedChar_of_not_confused hc] at h
  by_cases hd : d ∈ confused
  · rw [mergedChar_of_confused hd] at h
    exact absurd (h ▸ List.mem_cons_self : c ∈ confused) hc
  · rwa [mergedChar_of_not_confused hd] at h

theorem confused_iff {c : Char} : c ∈ confused ↔ 0xFFFD ≤ c.toNat ∧ c.toNat ≤ 0xFFFF := by
  simp only [confused, List.mem_cons, List.not_mem_nil, or_false, ← Char.toNat_inj,
    Char.reduceToNat]
  omega

theorem eq_of_mem_confused {c : Char} (h : c ∈ confused) :
    c = '\ufffd' ∨ c = '\ufffe' ∨ c = '\uffff' := by
  simpa [confused] using h

/-- In folded texts, patterns tell characters apart as the store does. -/
theorem patternChar_of_mem_lowercase {cs : List Char} {c : Char} (h : c ∈ lowercase cs) :
    patternChar c = mergedChar c := by
  unfold patternChar
  by_cases hc : c ∈ confused
  · rw [mergedChar_of_confused hc, toLower_of_mem_lowercase h]
    rw [confused_iff] at hc
    split
    · rfl
    · exact Char.toNat_inj.mp (show c.toNat = 0xFFFD by omega)
  · rw [mergedChar_of_not_confused hc, if_neg, toLower_of_mem_lowercase h]
    rw [confused_iff] at hc
    omega

theorem map_patternChar_lowercase (cs : List Char) :
    (beforeNul (lowercase cs)).map patternChar = (beforeNul (lowercase cs)).map mergedChar :=
  List.map_congr_left fun _ hc =>
    patternChar_of_mem_lowercase ((List.takeWhile_sublist _).subset hc)

section Needles

variable {hay needle : String}

theorem likeFolded_iff (h : '\u0000' ∉ needle.toList) : likeFolded hay needle = true ↔
    (fold needle).toList.map mergedChar <:+: (beforeNul (fold hay).toList).map mergedChar := by
  have hneedle : '\u0000' ∉ lowercase needle.toList := mt nul_mem_lowercase.mp h
  have hmap := map_patternChar_lowercase needle.toList
  rw [beforeNul_of_not_mem hneedle] at hmap
  rw [likeFolded, foldedPattern, String.toList_ofList, fold_toList, fold_toList,
    like_likePattern_iff hneedle, hmap, map_patternChar_lowercase]

/-- The pattern of a needle with a NUL character finds the texts that end with what stands before
it. -/
theorem likeFolded_iff_of_nul (h : '\u0000' ∈ needle.toList) : likeFolded hay needle = true ↔
    (beforeNul (fold needle).toList).map mergedChar <:+
      (beforeNul (fold hay).toList).map mergedChar := by
  rw [likeFolded, foldedPattern, String.toList_ofList, fold_toList, fold_toList,
    like_likePattern_iff_of_nul (nul_mem_lowercase.mpr h), map_patternChar_lowercase,
    map_patternChar_lowercase]

end Needles

/-! ## Needles without these characters -/

theorem eq_of_map_mergedChar_eq {part needle : List Char} (hn : ∀ c ∈ needle, c ∉ confused)
    (h : part.map mergedChar = needle.map mergedChar) : part = needle := by
  induction needle generalizing part with
  | nil => exact List.map_eq_nil_iff.mp h
  | cons c cs ih =>
    obtain ⟨d, part, rfl, hd, hrest⟩ := List.map_eq_cons_iff.mp h
    rw [eq_of_mergedChar_eq (hn c List.mem_cons_self) hd,
      ih (fun c hc => hn c (List.mem_cons_of_mem _ hc)) hrest]

/-- A needle without confused characters is found only where it stands. -/
theorem infix_of_map_mergedChar {needle hay : List Char} (hn : ∀ c ∈ needle, c ∉ confused)
    (h : needle.map mergedChar <:+: hay.map mergedChar) : needle <:+: hay := by
  obtain ⟨part, hpart, heq⟩ := List.infix_map_iff.mp h
  rwa [eq_of_map_mergedChar_eq hn heq.symm] at hpart

theorem special_not_confused : ∀ d ∈ ['ς', 'σ', 'i', '\u0307'], d ∉ confused := by
  simp [confused]

/-- Folding brings no confused character in. -/
theorem not_confused_of_mem_lowercase {cs : List Char} (h : ∀ c ∈ cs, c ∉ confused) :
    ∀ c ∈ lowercase cs, c ∉ confused := by
  intro d hd hconfused
  rcases mem_lowerFrom hd with hd | ⟨c, hc, rfl⟩
  · exact absurd hconfused (special_not_confused d hd)
  · rw [(lowerChar_plain c).2 (.inr (confused_iff.mp hconfused))] at hconfused
    exact h c hc hconfused

/-! ## Needles with them -/

theorem lowerRuns_sources : ∀ run ∈ lowerRuns, run.last < 0xFFFD ∨ 0xFFFF < run.first := by
  decide +kernel

/-- Confused characters have no other case. -/
theorem lowerChar_of_confused {c : Char} (h : c ∈ confused) : lowerChar c = c := by
  rw [confused_iff] at h
  have hnone : lowerRuns.findSome? (·.lower? c.toNat) = none := by
    rw [List.findSome?_eq_none_iff]
    intro run hrun
    have := lowerRuns_sources run hrun
    exact if_neg (by omega)
  rw [lowerChar, if_neg (by omega), hnone, Option.map_none, Option.getD_none]

/-- They are none of the letters whose form is not their own. -/
theorem confused_plain : ∀ c ∈ confused, c ≠ 'Σ' ∧ c ≠ 'İ' ∧ isCased c = false ∧
    isCaseIgnorable c = false := by
  intro c h
  rcases eq_of_mem_confused h with rfl | rfl | rfl <;>
    exact ⟨by simp, by simp, by decide +kernel, by decide +kernel⟩

/-- A confused character folds to itself, wherever it stands. -/
theorem lowerForm_of_confused {c : Char} (h : c ∈ confused) (afterCased : Bool)
    (rest : List Char) : lowerForm afterCased c rest = [c] := by
  obtain ⟨hsigma, hdotted, -⟩ := confused_plain c h
  rw [lowerForm, if_neg hsigma, if_neg hdotted, lowerChar_of_confused h]

/-- Confused characters are exchanged for one another, and the others are kept. -/
structure Exchanges (f : Char → Char) : Prop where
  eq_of_not_confused : ∀ {c}, c ∉ confused → f c = c
  mem_confused : ∀ {c}, c ∈ confused → f c ∈ confused

namespace Exchanges

variable {f : Char → Char} (hf : Exchanges f)
include hf

theorem isCased_eq (c : Char) : isCased (f c) = isCased c := by
  by_cases h : c ∈ confused
  · rw [(confused_plain c h).2.2.1, (confused_plain _ (hf.mem_confused h)).2.2.1]
  · rw [hf.eq_of_not_confused h]

theorem isCaseIgnorable_eq (c : Char) : isCaseIgnorable (f c) = isCaseIgnorable c := by
  by_cases h : c ∈ confused
  · rw [(confused_plain c h).2.2.2, (confused_plain _ (hf.mem_confused h)).2.2.2]
  · rw [hf.eq_of_not_confused h]

theorem startsCased_map (cs : List Char) : startsCased (cs.map f) = startsCased cs := by
  induction cs with
  | nil => rfl
  | cons c cs ih =>
    rw [List.map_cons, startsCased, startsCased, hf.isCaseIgnorable_eq, hf.isCased_eq, ih]

theorem lowerForm_map (afterCased : Bool) (c : Char) (rest : List Char) :
    lowerForm afterCased (f c) (rest.map f) = (lowerForm afterCased c rest).map f := by
  by_cases h : c ∈ confused
  · rw [lowerForm_of_confused h, lowerForm_of_confused (hf.mem_confused h)]
    rfl
  · have hform : ∀ d ∈ lowerForm afterCased c rest, f d = d := by
      intro d hd
      refine hf.eq_of_not_confused fun hconfused => ?_
      rcases mem_lowerForm hd with hd | rfl
      · exact special_not_confused d hd hconfused
      · rw [(lowerChar_plain c).2 (.inr (confused_iff.mp hconfused))] at hconfused
        exact h hconfused
    rw [List.map_congr_left (g := id) hform, List.map_id, hf.eq_of_not_confused h, lowerForm,
      endsWord, hf.startsCased_map]
    rfl

theorem lowerFrom_map (afterCased : Bool) (cs : List Char) :
    lowerFrom afterCased (cs.map f) = (lowerFrom afterCased cs).map f := by
  induction cs generalizing afterCased with
  | nil => rfl
  | cons c cs ih =>
    rw [List.map_cons, lowerFrom, lowerFrom, List.map_append, hf.lowerForm_map,
      hf.isCaseIgnorable_eq, hf.isCased_eq, ih]

/-- A text with confused characters exchanged folds to the folded text with them exchanged. -/
theorem lowercase_map (cs : List Char) : lowercase (cs.map f) = (lowercase cs).map f :=
  hf.lowerFrom_map false cs

theorem nul_mem_map {cs : List Char} : '\u0000' ∈ cs.map f ↔ '\u0000' ∈ cs := by
  have hfixed : ∀ {c}, f c = '\u0000' ↔ c = '\u0000' := by
    intro c
    by_cases h : c ∈ confused
    · refine iff_of_false (fun hc => ?_) (fun hc => ?_)
      · exact absurd (hc ▸ hf.mem_confused h) (by decide)
      · exact absurd (hc ▸ h) (by decide)
    · rw [hf.eq_of_not_confused h]
  simp [List.mem_map, hfixed]

end Exchanges

theorem exchanges_mergedChar : Exchanges mergedChar where
  eq_of_not_confused := mergedChar_of_not_confused
  mem_confused h := mergedChar_of_confused h ▸ List.mem_cons_self

/-- A confused character exchanged for another. -/
def swappedChar (c : Char) : Char :=
  if c = '\ufffd' then '\ufffe' else if c ∈ confused then '\ufffd' else c

theorem swappedChar_mem {c : Char} (h : c ∈ confused) :
    swappedChar c ∈ confused ∧ swappedChar c ≠ c := by
  rcases eq_of_mem_confused h with rfl | rfl | rfl <;> simp [swappedChar, confused]

theorem exchanges_swappedChar : Exchanges swappedChar where
  eq_of_not_confused h := by
    unfold swappedChar
    rw [if_neg, if_neg h]
    rintro rfl
    exact h (by decide)
  mem_confused h := (swappedChar_mem h).1

theorem mergedChar_swappedChar (c : Char) : mergedChar (swappedChar c) = mergedChar c := by
  by_cases h : c ∈ confused
  · rw [mergedChar_of_confused h, mergedChar_of_confused (swappedChar_mem h).1]
  · rw [exchanges_swappedChar.eq_of_not_confused h]

/-- A needle with a confused character does not stand in itself with these exchanged. -/
theorem not_infix_swapped {needle : List Char} {c : Char} (hc : c ∈ needle)
    (h : c ∈ confused) : ¬ lowercase needle <:+: lowercase (needle.map swappedChar) := by
  intro hinfix
  rw [exchanges_swappedChar.lowercase_map] at hinfix
  have heq := hinfix.eq_of_length (List.length_map _).symm
  have hfixed := List.map_eq_map_iff.mp (heq.symm.trans (List.map_id _).symm) c
    (mem_lowerFrom_of_fixed (lowerForm_of_confused h) hc false)
  exact (swappedChar_mem h).2 hfixed

/-! ## Agreement -/

/-- Neither a NUL character nor one of the three confused characters occurs. -/
def IsUnmistakable (cs : List Char) : Prop := '\u0000' ∉ cs ∧ ∀ c ∈ cs, c ∉ confused

variable {needle : String}

/-- In texts without a NUL character, the patterns of unmistakable needles mean containment. -/
theorem likeFolded_iff_infix (h : IsUnmistakable needle.toList) {hay : String}
    (hhay : '\u0000' ∉ hay.toList) :
    likeFolded hay needle = true ↔ (fold needle).toList <:+: (fold hay).toList := by
  have hnul : '\u0000' ∉ (fold hay).toList := by
    rw [fold_toList]
    exact mt nul_mem_lowercase.mp hhay
  rw [likeFolded_iff h.1, beforeNul_of_not_mem hnul]
  refine ⟨fun hfound => ?_, fun hstands => hstands.map mergedChar⟩
  rw [fold_toList] at hfound ⊢
  exact infix_of_map_mergedChar (not_confused_of_mem_lowercase h.2) hfound

/-- Those of other needles do not: there is a text that matches and does not contain the needle. -/
theorem isUnmistakable_of_agree (h : ∀ hay : String, '\u0000' ∉ hay.toList →
    (likeFolded hay needle = true ↔ (fold needle).toList <:+: (fold hay).toList)) :
    IsUnmistakable needle.toList := by
  have hnul : '\u0000' ∉ needle.toList := by
    intro hmem
    -- the text is what is left of the needle
    have hhay := nul_not_mem_beforeNul needle.toList
    have hfound : likeFolded (String.ofList (beforeNul needle.toList)) needle = true := by
      rw [likeFolded_iff_of_nul hmem, fold_toList, fold_toList, String.toList_ofList,
        beforeNul_lowercase, beforeNul_lowercase, beforeNul_of_not_mem hhay]
    have hstands := (h _ (by rwa [String.toList_ofList])).mp hfound
    rw [fold_toList, fold_toList, String.toList_ofList] at hstands
    exact hhay (nul_mem_lowercase.mp (hstands.subset (nul_mem_lowercase.mpr hmem)))
  refine ⟨hnul, fun c hc hconfused => ?_⟩
  -- the text is the needle with confused characters exchanged
  have hhay : '\u0000' ∉ needle.toList.map swappedChar :=
    mt exchanges_swappedChar.nul_mem_map.mp hnul
  have hfound : likeFolded (String.ofList (needle.toList.map swappedChar)) needle = true := by
    rw [likeFolded_iff hnul, fold_toList, fold_toList, String.toList_ofList, beforeNul_lowercase,
      beforeNul_of_not_mem hhay, exchanges_swappedChar.lowercase_map, List.map_map,
      show mergedChar ∘ swappedChar = mergedChar from funext mergedChar_swappedChar]
  have hstands := (h _ (by rwa [String.toList_ofList])).mp hfound
  rw [fold_toList, fold_toList, String.toList_ofList] at hstands
  exact not_infix_swapped hc hconfused hstands

theorem lowercase_nul_cons (cs : List Char) :
    lowercase ('\u0000' :: cs) = '\u0000' :: lowercase cs := by
  obtain ⟨hcased, hignorable⟩ := nul_not_cased
  rw [lowercase, lowerFrom, lowerForm_nul, hcased, hignorable]
  rfl

/-- What stands behind a NUL character is not found. -/
theorem eq_empty_of_agree (h : ∀ hay : String,
    likeFolded hay needle = true ↔ (fold needle).toList <:+: (fold hay).toList) : needle = "" := by
  obtain ⟨hnul, -⟩ := isUnmistakable_of_agree fun hay _ => h hay
  have hfound : likeFolded (String.ofList ('\u0000' :: needle.toList)) needle = true := by
    rw [h, fold_toList, fold_toList, String.toList_ofList, lowercase_nul_cons]
    exact (List.suffix_cons _ _).isInfix
  rw [likeFolded_iff hnul, fold_toList, fold_toList, String.toList_ofList, lowercase_nul_cons,
    beforeNul_nul, List.map_nil, List.infix_nil, List.map_eq_nil_iff, lowercase_eq_nil_iff]
    at hfound
  exact String.toList_eq_nil_iff.mp hfound

/-- **What patterns mean.** A folded text has the form of the pattern of a needle if and only if it
contains the folded needle before its first NUL character, once the replacement character and the
two noncharacters are taken for one; the pattern of a needle with a NUL character wants the text to
end with what stands before that. For all texts without a NUL character this is containment exactly
if none of the four characters stands in the needle, and for all texts only if the needle is
empty. -/
theorem likes_contained_iff (needle : String) :
    ('\u0000' ∉ needle.toList →
      ∀ hay, like (foldedPattern needle).toList (fold hay).toList = true ↔
        (fold needle).toList.map mergedChar <:+: (beforeNul (fold hay).toList).map mergedChar) ∧
    ('\u0000' ∈ needle.toList →
      ∀ hay, like (foldedPattern needle).toList (fold hay).toList = true ↔
        (beforeNul (fold needle).toList).map mergedChar <:+
          (beforeNul (fold hay).toList).map mergedChar) ∧
    ((∀ hay : String, '\u0000' ∉ hay.toList →
        (like (foldedPattern needle).toList (fold hay).toList = true ↔
          (fold needle).toList <:+: (fold hay).toList)) ↔
      '\u0000' ∉ needle.toList ∧
        ∀ c ∈ needle.toList, c ≠ '\ufffd' ∧ c ≠ '\ufffe' ∧ c ≠ '\uffff') ∧
    ((∀ hay, like (foldedPattern needle).toList (fold hay).toList = true ↔
        (fold needle).toList <:+: (fold hay).toList) ↔ needle = "") := by
  have hconfused {c : Char} : c ∉ confused ↔ c ≠ '\ufffd' ∧ c ≠ '\ufffe' ∧ c ≠ '\uffff' := by
    simp [confused]
  refine ⟨fun h hay => likeFolded_iff h, fun h hay => likeFolded_iff_of_nul h, ?_, ?_⟩
  · simp only [← hconfused]
    exact ⟨isUnmistakable_of_agree, fun h hay hhay => likeFolded_iff_infix h hhay⟩
  · refine ⟨eq_empty_of_agree, ?_⟩
    rintro rfl hay
    have hfound : likeFolded hay "" = true := (likeFolded_iff (by simp)).mpr (List.nil_infix)
    exact iff_of_true hfound List.nil_infix

/-- A noncharacter is found in a text that holds the other one only. -/
theorem noncharacter_confused : like (foldedPattern "\uffff").toList (fold "\ufffe").toList = true ∧
    ¬ (fold "\uffff").toList <:+: (fold "\ufffe").toList := by
  constructor
  · refine (likeFolded_iff (by decide)).mpr ?_
    decide +kernel
  · decide +kernel

end MailSearch
