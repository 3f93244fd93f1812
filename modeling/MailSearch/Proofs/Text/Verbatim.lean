import MailSearch.Proofs.Text.Parts

/-!
# Texts that are found as they stand

A needle that stands in a text word for word need not stand in the folded text once it is folded
itself. Only a sigma can come out otherwise: one whose form is decided by what stands around the
needle (`HasLooseSigma`). `forall_infix_iff`: a needle without a loose sigma is found wherever it
stands, and for every other needle there is a text that it stands in and is not found in.

The proof looks at the folded needle where it stands (`lowerWithin`). Without a loose sigma it is
the same everywhere (`lowerWithin_eq_lowercase`). With one, a letter behind or in front of the
needle makes it another text of the same length, which leaves no room for the folded needle.
-/

namespace MailSearch.Text

/-- A sigma of the text is decided by what stands around the text: a sigma that ends a word of the
text with nothing behind it that counts for casing, or a sigma with nothing in front of it that
counts and no cased letter behind it. -/
def HasLooseSigma (cs : List Char) : Prop :=
  ∃ before rest, cs = before ++ 'Σ' :: rest ∧
    ((endsCased false before = true ∧ rest.all isCaseIgnorable = true) ∨
      (before.all isCaseIgnorable = true ∧ startsCased rest = false))

/-! ## What counts for casing -/

/-- Casing looks past a text without a character that counts. -/
theorem endsCased_of_ignorable {cs : List Char} (h : cs.all isCaseIgnorable = true)
    (afterCased : Bool) : endsCased afterCased cs = afterCased := by
  induction cs with
  | nil => rfl
  | cons c cs ih =>
    rw [List.all_cons, Bool.and_eq_true] at h
    rw [endsCased, List.foldl_cons, h.1, if_pos rfl]
    exact ih h.2

/-- What stands before a character that counts makes no difference behind it. -/
theorem endsCased_of_not_ignorable {cs : List Char} (h : ¬ cs.all isCaseIgnorable = true)
    (a b : Bool) : endsCased a cs = endsCased b cs := by
  induction cs generalizing a b with
  | nil => exact absurd rfl h
  | cons c cs ih =>
    rw [endsCased, endsCased, List.foldl_cons, List.foldl_cons]
    by_cases hc : isCaseIgnorable c = true
    · have hcs : ¬ cs.all isCaseIgnorable = true := fun hcs => h (by simp [hc, hcs])
      rw [if_pos hc, if_pos hc]
      exact ih hcs a b
    · rw [if_neg hc, if_neg hc]

theorem startsCased_of_ignorable {cs : List Char} (h : cs.all isCaseIgnorable = true)
    (after : List Char) : startsCased (cs ++ after) = startsCased after := by
  induction cs with
  | nil => rfl
  | cons c cs ih =>
    rw [List.all_cons, Bool.and_eq_true] at h
    rw [List.cons_append, startsCased, if_pos h.1]
    exact ih h.2

theorem startsCased_of_not_ignorable {cs : List Char} (h : ¬ cs.all isCaseIgnorable = true)
    (after : List Char) : startsCased (cs ++ after) = startsCased cs := by
  induction cs with
  | nil => exact absurd rfl h
  | cons c cs ih =>
    rw [List.cons_append, startsCased, startsCased]
    by_cases hc : isCaseIgnorable c = true
    · have hcs : ¬ cs.all isCaseIgnorable = true := fun hcs => h (by simp [hc, hcs])
      rw [if_pos hc, if_pos hc]
      exact ih hcs
    · rw [if_neg hc, if_neg hc]

/-- Without a character that counts, no cased letter comes first. -/
theorem not_startsCased_of_ignorable {cs : List Char} (h : cs.all isCaseIgnorable = true) :
    startsCased cs = false := by
  have hnil := startsCased_of_ignorable h []
  rwa [List.append_nil] at hnil

/-! ## Needles that fold alike everywhere -/

/-- A text alone stands behind nothing and before nothing. -/
theorem lowercase_eq_lowerWithin (cs : List Char) : lowercase cs = lowerWithin false cs [] :=
  (lowerWithin_nil false cs).symm

/-- A needle without a loose sigma folds to the same wherever it stands. -/
theorem lowerWithin_eq_lowercase {cs : List Char} (h : ¬ HasLooseSigma cs) (afterCased : Bool)
    (after : List Char) : lowerWithin afterCased cs after = lowercase cs := by
  rw [lowercase_eq_lowerWithin, lowerWithin_eq_iff]
  intro before rest hcs
  have hbehind : ¬ (endsCased false before = true ∧ rest.all isCaseIgnorable = true) :=
    fun hloose => h ⟨before, rest, hcs, .inl hloose⟩
  have hfront : ¬ (before.all isCaseIgnorable = true ∧ startsCased rest = false) :=
    fun hloose => h ⟨before, rest, hcs, .inr hloose⟩
  rw [List.append_nil, endsWord, endsWord]
  by_cases hbefore : before.all isCaseIgnorable = true
  · -- a cased letter of the needle comes behind the sigma, which so ends no word
    have hstarts : startsCased rest = true := by simpa [hbefore] using hfront
    have hrest : ¬ rest.all isCaseIgnorable = true := by
      intro hrest
      rw [not_startsCased_of_ignorable hrest] at hstarts
      cases hstarts
    rw [startsCased_of_not_ignorable hrest, hstarts, Bool.not_true, Bool.and_false, Bool.and_false]
  · rw [endsCased_of_not_ignorable hbefore afterCased false]
    by_cases hrest : rest.all isCaseIgnorable = true
    · have hends : endsCased false before = false := by simpa [hrest] using hbehind
      rw [hends, Bool.false_and, Bool.false_and]
    · rw [startsCased_of_not_ignorable hrest]

/-- A needle without a loose sigma is found wherever it stands. -/
theorem lowercase_isInfix {needle hay : List Char} (h : ¬ HasLooseSigma needle)
    (hstands : needle <:+: hay) : lowercase needle <:+: lowercase hay := by
  obtain ⟨before, after, rfl⟩ := hstands
  refine ⟨lowerWithin false before (needle ++ after),
    lowerFrom (endsCased (endsCased false before) needle) after, ?_⟩
  rw [← lowerWithin_eq_lowercase h (endsCased false before) after, lowercase, List.append_assoc,
    List.append_assoc, lowerFrom_append, lowerFrom_append]

/-! ## Needles that do not -/

section Infix

variable {α : Type} {xs ys : List α} {x : α}

/-- A list with one item in front has no room for another list of the same length, unless that
starts with the item. -/
theorem eq_or_head_of_infix_cons (hlength : xs.length = ys.length) (h : xs <:+: x :: ys) :
    xs = ys ∨ x ∈ xs.head? := by
  rcases List.infix_cons_iff.mp h with ⟨rest, hrest⟩ | hstands
  · cases xs with
    | nil => exact .inl (List.length_eq_zero_iff.mp hlength.symm).symm
    | cons z xs =>
      rw [List.cons_append] at hrest
      exact .inr (congrArg some (List.cons.inj hrest).1)
  · exact .inl (hstands.eq_of_length hlength)

/-- Likewise with one item at the end. -/
theorem eq_or_last_of_infix_concat (hlength : xs.length = ys.length) (h : xs <:+: ys ++ [x]) :
    xs = ys ∨ x ∈ xs.getLast? := by
  have hreverse : xs.reverse <:+: x :: ys.reverse := by
    rw [← List.reverse_infix] at h
    rwa [List.reverse_append] at h
  rcases eq_or_head_of_infix_cons (by simpa using hlength) hreverse with heq | hhead
  · exact .inl (List.reverse_inj.mp heq)
  · exact .inr (by rwa [List.head?_reverse] at hhead)

end Infix

theorem lowerRuns_beyond_a : ∀ run ∈ lowerRuns, 0x61 < run.target := by
  decide +kernel

theorem toLower_eq_a : ∀ n < 0x80, (Char.ofNat n).toLower = 'a' →
    n = 'A'.toNat ∨ n = 'a'.toNat := by
  decide +kernel

/-- Only the letter itself and its capital fold to it. -/
theorem eq_of_lowerChar_eq_a {c : Char} (h : lowerChar c = 'a') : c = 'A' ∨ c = 'a' := by
  unfold lowerChar at h
  split at h
  · rename_i hc
    have := toLower_eq_a c.toNat hc
    rw [Char.ofNat_toNat] at this
    exact (this h).imp Char.toNat_inj.mp Char.toNat_inj.mp
  · rename_i hc
    cases hrun : lowerRuns.findSome? (·.lower? c.toNat) with
    | none =>
      rw [hrun] at h
      exact .inr h
    | some n =>
      rw [hrun] at h
      have hn : (Char.ofNat n).toNat = 0x61 := congrArg Char.toNat h
      obtain ⟨run, hmem, hlower⟩ := List.exists_of_findSome?_eq_some hrun
      have htarget := lowerRuns_beyond_a run hmem
      unfold LowerRun.lower? at hlower
      split at hlower
      · have hle := Option.some.inj hlower
        rcases toNat_ofNat_cases n with hcode | hcode
        · omega
        · omega
      · cases hlower

/-- What casing looks past, and the sigma, do not fold to the letter. -/
theorem a_not_mem_lowerForm {c : Char} (h : isCaseIgnorable c = true ∨ c = 'Σ') (afterCased : Bool)
    (rest : List Char) : 'a' ∉ lowerForm afterCased c rest := by
  intro hmem
  rcases mem_lowerForm hmem with hmem | hlower
  · revert hmem
    decide
  · rcases eq_of_lowerChar_eq_a hlower.symm with rfl | rfl <;> revert h <;> decide +kernel

theorem lowerForm_a (afterCased : Bool) (rest : List Char) :
    lowerForm afterCased 'a' rest = ['a'] := by
  have hlower : lowerChar 'a' = 'a' := by decide +kernel
  rw [lowerForm, if_neg (by decide), if_neg (by decide), hlower]

theorem head_lowercase_cons {c d : Char} {cs : List Char} (h : d ∈ (lowercase (c :: cs)).head?) :
    d ∈ lowerForm false c cs := by
  rw [lowercase, lowerFrom, List.head?_append_of_ne_nil _ (lowerForm_ne_nil _ _ _)] at h
  exact List.mem_of_mem_head? h

theorem last_lowercase_concat {c d : Char} {cs : List Char}
    (h : d ∈ (lowercase (cs ++ [c])).getLast?) : d ∈ lowerForm (endsCased false cs) c [] := by
  have hlast : lowerFrom (endsCased false cs) [c] = lowerForm (endsCased false cs) c [] := by
    rw [lowerFrom, lowerFrom, List.append_nil]
  rw [lowercase, lowerFrom_append, hlast,
    List.getLast?_append_of_ne_nil _ (lowerForm_ne_nil _ _ _)] at h
  exact List.mem_of_mem_getLast? h

/-- With a cased letter behind it, a needle that ends in a sigma is not found. -/
theorem not_infix_of_sigma_behind {before rest : List Char} (hends : endsCased false before = true)
    (hrest : rest.all isCaseIgnorable = true) :
    ¬ lowercase (before ++ 'Σ' :: rest) <:+: lowercase (before ++ 'Σ' :: rest ++ ['a']) := by
  have hhay : lowercase (before ++ 'Σ' :: rest ++ ['a']) =
      lowerWithin false (before ++ 'Σ' :: rest) ['a'] ++ ['a'] := by
    rw [lowercase, lowerFrom_append, lowerFrom, lowerForm_a, lowerFrom, List.append_nil]
  have hne : lowercase (before ++ 'Σ' :: rest) ≠
      lowerWithin false (before ++ 'Σ' :: rest) ['a'] := by
    rw [lowercase_eq_lowerWithin, Ne, lowerWithin_eq_iff]
    intro h
    have hsigma := h before rest rfl
    have hcased : startsCased ['a'] = true := by decide +kernel
    rw [endsWord, endsWord, hends, List.append_nil, not_startsCased_of_ignorable hrest,
      startsCased_of_ignorable hrest, hcased] at hsigma
    cases hsigma
  have hlength : (lowercase (before ++ 'Σ' :: rest)).length =
      (lowerWithin false (before ++ 'Σ' :: rest) ['a']).length := by
    rw [lowercase_eq_lowerWithin, length_lowerWithin]
  intro hstands
  rw [hhay] at hstands
  refine (eq_or_last_of_infix_concat hlength hstands).elim hne fun hlast => ?_
  rcases List.eq_nil_or_concat rest with rfl | ⟨rest, c, rfl⟩
  · exact a_not_mem_lowerForm (.inr rfl) _ _ (last_lowercase_concat hlast)
  · have hc : isCaseIgnorable c = true := List.all_eq_true.mp hrest c (by simp)
    rw [List.concat_eq_append, ← List.cons_append, ← List.append_assoc] at hlast
    exact a_not_mem_lowerForm (.inl hc) _ _ (last_lowercase_concat hlast)

/-- With a cased letter in front of it, a needle that starts with a sigma is not found, unless the
sigma has a cased letter behind it. -/
theorem not_infix_of_sigma_front {before rest : List Char}
    (hbefore : before.all isCaseIgnorable = true) (hstarts : startsCased rest = false) :
    ¬ lowercase (before ++ 'Σ' :: rest) <:+: lowercase ('a' :: (before ++ 'Σ' :: rest)) := by
  have hhay : lowercase ('a' :: (before ++ 'Σ' :: rest)) =
      'a' :: lowerWithin true (before ++ 'Σ' :: rest) [] := by
    have hcased : (if isCaseIgnorable 'a' then false else isCased 'a') = true := by decide +kernel
    rw [lowerWithin_nil, lowercase, lowerFrom, lowerForm_a, hcased, List.singleton_append]
  have hne : lowercase (before ++ 'Σ' :: rest) ≠ lowerWithin true (before ++ 'Σ' :: rest) [] := by
    rw [lowercase_eq_lowerWithin, Ne, lowerWithin_eq_iff]
    intro h
    have hsigma := h before rest rfl
    rw [endsWord, endsWord, endsCased_of_ignorable hbefore, endsCased_of_ignorable hbefore,
      List.append_nil, hstarts] at hsigma
    cases hsigma
  have hlength : (lowercase (before ++ 'Σ' :: rest)).length =
      (lowerWithin true (before ++ 'Σ' :: rest) []).length := by
    rw [lowercase_eq_lowerWithin, length_lowerWithin]
  intro hstands
  rw [hhay] at hstands
  refine (eq_or_head_of_infix_cons hlength hstands).elim hne fun hhead => ?_
  cases before with
  | nil => exact a_not_mem_lowerForm (.inr rfl) _ _ (head_lowercase_cons hhead)
  | cons c before =>
    have hc : isCaseIgnorable c = true := List.all_eq_true.mp hbefore c List.mem_cons_self
    exact a_not_mem_lowerForm (.inl hc) _ _ (head_lowercase_cons hhead)

/-- A needle with a loose sigma is not found beside some cased letter. -/
theorem exists_missed {needle : List Char} (h : HasLooseSigma needle) :
    ∃ before after : List Char, (∀ c ∈ before ++ after, c = 'a') ∧
      ¬ lowercase needle <:+: lowercase (before ++ needle ++ after) := by
  obtain ⟨before, rest, rfl, ⟨hends, hrest⟩ | ⟨hbefore, hstarts⟩⟩ := h
  · exact ⟨[], ['a'], by simp, not_infix_of_sigma_behind hends hrest⟩
  · refine ⟨['a'], [], by simp, ?_⟩
    rw [List.append_nil]
    exact not_infix_of_sigma_front hbefore hstarts

/-- **Found as it stands.** A needle is found in every text that it stands in exactly if it has no
loose sigma. -/
theorem forall_infix_iff (needle : List Char) :
    (∀ hay, needle <:+: hay → lowercase needle <:+: lowercase hay) ↔ ¬ HasLooseSigma needle := by
  refine ⟨fun hfound h => ?_, fun h hay => lowercase_isInfix h⟩
  obtain ⟨before, after, -, hmissed⟩ := exists_missed h
  exact hmissed (hfound _ (List.infix_append before needle after))

end MailSearch.Text
