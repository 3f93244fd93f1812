import Mathlib
import MailSearch.Proofs.Text.Folding
import MailSearch.Text.Blank

/-!
# Parts of a text, folded

A part of a text need not fold as it does within the text: a sigma folds by its neighbours. But
blanks and quotes are neither letters nor looked past, so what stands between two of them folds on
its own.

* `lowerWithin`: what a text folds to where it stands. `lowerWithin_eq_iff`: only its sigmas can
  fold in another way elsewhere.
* `IsPart part cs`: the part stands in the text between two blanks, quotes or ends.
* `exists_lowercase_of_isPart`: it folds to a piece of the folded text.
-/

namespace MailSearch.Text

/-- Blanks and quotes, at which the parts of a text end. -/
def isStop (c : Char) : Bool := isBlank c || c = '"'

/-- The text is empty, or starts with a blank or a quote. -/
def StartsAtStop (cs : List Char) : Prop := ∀ c ∈ cs.head?, isStop c = true

/-- The text is empty, or ends with a blank or a quote. -/
def EndsAtStop (cs : List Char) : Prop := ∀ c ∈ cs.getLast?, isStop c = true

/-- The part stands in the text between two blanks, quotes or ends. -/
def IsPart (part cs : List Char) : Prop :=
  ∃ before after, cs = before ++ (part ++ after) ∧ EndsAtStop before ∧ StartsAtStop after

theorem isStop_of_isBlank {c : Char} (h : isBlank c = true) : isStop c = true := by
  simp [isStop, h]

theorem endsAtStop_nil : EndsAtStop [] := by simp [EndsAtStop]

theorem startsAtStop_cons {c : Char} (h : isStop c = true) (cs : List Char) :
    StartsAtStop (c :: cs) := by
  simpa [StartsAtStop] using h

theorem endsAtStop_concat {c : Char} (h : isStop c = true) (cs : List Char) :
    EndsAtStop (cs ++ [c]) := by
  simpa [EndsAtStop] using h

theorem StartsAtStop.append {xs ys : List Char} (hx : StartsAtStop xs) (hy : StartsAtStop ys) :
    StartsAtStop (xs ++ ys) := by
  cases xs with
  | nil => exact hy
  | cons c xs => exact hx

/-- What is a part of a text is one still when more follows after a stop. -/
theorem IsPart.append {part cs : List Char} (h : IsPart part cs) {more : List Char}
    (hmore : StartsAtStop more) : IsPart part (cs ++ more) := by
  obtain ⟨before, after, rfl, hbefore, hafter⟩ := h
  exact ⟨before, after ++ more, by simp, hbefore, hafter.append hmore⟩

/-! ## Stops and casing -/

/-- The code points of blanks and of the quote. -/
def stopCodes : List Nat :=
  [9, 10, 11, 12, 13, 0x20, 0x22, 0x85, 0xA0, 0x1680, 0x2000, 0x2001, 0x2002, 0x2003, 0x2004,
    0x2005, 0x2006, 0x2007, 0x2008, 0x2009, 0x200A, 0x2028, 0x2029, 0x202F, 0x205F, 0x3000]

theorem toNat_mem_stopCodes {c : Char} (h : isStop c = true) : c.toNat ∈ stopCodes := by
  simp only [isStop, isBlank, Bool.or_eq_true, Bool.and_eq_true, decide_eq_true_eq,
    beq_iff_eq] at h
  simp only [stopCodes, List.mem_cons, List.not_mem_nil, or_false]
  rcases h with h | rfl
  · omega
  · decide

theorem not_cased_of_mem_stopCodes : ∀ n ∈ stopCodes,
    isCaseIgnorable (Char.ofNat n) = false ∧ isCased (Char.ofNat n) = false := by
  decide +kernel

/-- Casing does not look past a stop, and a stop is no letter with a case. -/
theorem not_cased_of_isStop {c : Char} (h : isStop c = true) :
    isCaseIgnorable c = false ∧ isCased c = false := by
  have := not_cased_of_mem_stopCodes c.toNat (toNat_mem_stopCodes h)
  rwa [Char.ofNat_toNat] at this

theorem startsCased_of_startsAtStop {cs : List Char} (h : StartsAtStop cs) :
    startsCased cs = false := by
  cases cs with
  | nil => rfl
  | cons c cs =>
    obtain ⟨hignorable, hcased⟩ := not_cased_of_isStop (h c rfl)
    simp only [startsCased, hignorable, hcased, Bool.false_eq_true, if_false]

/-- What follows a stop does not count for what stands before it. -/
theorem startsCased_append {after : List Char} (h : StartsAtStop after) (cs : List Char) :
    startsCased (cs ++ after) = startsCased cs := by
  induction cs with
  | nil => exact startsCased_of_startsAtStop h
  | cons c cs ih => simp only [List.cons_append, startsCased, ih]

/-- Whether the last character of a text that counts for casing is a cased letter. -/
def endsCased (afterCased : Bool) (cs : List Char) : Bool :=
  cs.foldl (fun cased c => if isCaseIgnorable c then cased else isCased c) afterCased

theorem endsCased_of_endsAtStop {cs : List Char} (h : EndsAtStop cs) :
    endsCased false cs = false := by
  rcases List.eq_nil_or_concat cs with rfl | ⟨cs, c, rfl⟩
  · rfl
  · rw [List.concat_eq_append] at h ⊢
    obtain ⟨hignorable, hcased⟩ := not_cased_of_isStop (h c (by simp))
    simp [endsCased, hignorable, hcased]

/-! ## Folding in pieces -/

/-- What a text folds to where it stands: behind a cased letter or not, and before another text. -/
def lowerWithin (afterCased : Bool) : (cs after : List Char) → List Char
  | [], _ => []
  | c :: cs, after =>
    lowerForm afterCased c (cs ++ after) ++
      lowerWithin (if isCaseIgnorable c then afterCased else isCased c) cs after

/-- A text that is put together folds to what its pieces fold to where they stand. -/
theorem lowerFrom_append (afterCased : Bool) (cs after : List Char) :
    lowerFrom afterCased (cs ++ after) =
      lowerWithin afterCased cs after ++ lowerFrom (endsCased afterCased cs) after := by
  induction cs generalizing afterCased with
  | nil => rfl
  | cons c cs ih =>
    rw [List.cons_append, lowerFrom, ih, lowerWithin, List.append_assoc]
    rfl

theorem lowerWithin_nil (afterCased : Bool) (cs : List Char) :
    lowerWithin afterCased cs [] = lowerFrom afterCased cs := by
  have h := lowerFrom_append afterCased cs []
  rw [List.append_nil, lowerFrom, List.append_nil] at h
  exact h.symm

/-- Only the form of a sigma depends on its neighbours. -/
theorem lowerForm_eq_iff {a b : Bool} {c : Char} {rest rest' : List Char} :
    lowerForm a c rest = lowerForm b c rest' ↔
      (c = 'Σ' → endsWord a rest = endsWord b rest') := by
  unfold lowerForm
  by_cases hc : c = 'Σ'
  · simp only [hc, if_true, true_imp_iff]
    cases endsWord a rest <;> cases endsWord b rest' <;> decide
  · simp only [hc, if_false, false_imp_iff]

theorem length_lowerForm (a b : Bool) (c : Char) (rest rest' : List Char) :
    (lowerForm a c rest).length = (lowerForm b c rest').length := by
  unfold lowerForm
  split
  · rfl
  · split <;> rfl

theorem length_lowerWithin (a b : Bool) (cs after after' : List Char) :
    (lowerWithin a cs after).length = (lowerWithin b cs after').length := by
  induction cs generalizing a b with
  | nil => rfl
  | cons c cs ih =>
    rw [lowerWithin, lowerWithin, List.length_append, List.length_append, length_lowerForm a b c,
      ih]

/-- In two places a text folds alike exactly if each of its sigmas ends a word in both or in
neither. -/
theorem lowerWithin_eq_iff {a b : Bool} {cs after after' : List Char} :
    lowerWithin a cs after = lowerWithin b cs after' ↔
      ∀ before rest, cs = before ++ 'Σ' :: rest →
        endsWord (endsCased a before) (rest ++ after) =
          endsWord (endsCased b before) (rest ++ after') := by
  induction cs generalizing a b with
  | nil => simp [lowerWithin]
  | cons c cs ih =>
    have hsplit : lowerWithin a (c :: cs) after = lowerWithin b (c :: cs) after' ↔
        lowerForm a c (cs ++ after) = lowerForm b c (cs ++ after') ∧
          lowerWithin (if isCaseIgnorable c then a else isCased c) cs after =
            lowerWithin (if isCaseIgnorable c then b else isCased c) cs after' := by
      rw [lowerWithin, lowerWithin]
      constructor
      · exact fun h => List.append_inj h (length_lowerForm a b c _ _)
      · rintro ⟨hform, hrest⟩
        rw [hform, hrest]
    rw [hsplit, lowerForm_eq_iff, ih]
    constructor
    · rintro ⟨hhead, htail⟩ before rest h
      cases before with
      | nil =>
        obtain ⟨rfl, rfl⟩ := List.cons.inj h
        exact hhead rfl
      | cons d before =>
        obtain ⟨rfl, hcs⟩ := List.cons.inj h
        exact htail before rest hcs
    · intro h
      refine ⟨?_, fun before rest hcs => ?_⟩
      · rintro rfl
        exact h [] cs rfl
      · rw [hcs] at h
        exact h (c :: before) rest rfl

/-- A text before a stop folds as it does alone. -/
theorem lowerWithin_of_startsAtStop (afterCased : Bool) (cs : List Char) {after : List Char}
    (h : StartsAtStop after) : lowerWithin afterCased cs after = lowerFrom afterCased cs := by
  rw [← lowerWithin_nil, lowerWithin_eq_iff]
  intro before rest _
  rw [endsWord, endsWord, startsCased_append h, List.append_nil]

theorem nul_not_mem_lowerWithin {cs : List Char} (h : '\u0000' ∉ cs) (afterCased : Bool)
    (after : List Char) : '\u0000' ∉ lowerWithin afterCased cs after := by
  induction cs generalizing afterCased with
  | nil => exact List.not_mem_nil
  | cons c cs ih =>
    rw [List.mem_cons, not_or] at h
    rw [lowerWithin, List.mem_append, not_or]
    exact ⟨fun hc => nul_not_mem_lowerForm (Ne.symm h.1) _ _ _ hc rfl, ih h.2 _⟩

/-- **Parts fold on their own.** The folded text contains the folded part; and no NUL character
stands before the one if none stands before the other. -/
theorem exists_lowercase_of_isPart {before after : List Char} (part : List Char)
    (hbefore : EndsAtStop before) (hafter : StartsAtStop after) : ∃ left right,
    lowercase (before ++ (part ++ after)) = left ++ (lowercase part ++ right) ∧
      ('\u0000' ∉ before → '\u0000' ∉ left) := by
  refine ⟨lowerWithin false before (part ++ after), lowerFrom (endsCased false part) after, ?_,
    fun h => nul_not_mem_lowerWithin h _ _⟩
  rw [lowercase, lowercase, lowerFrom_append, endsCased_of_endsAtStop hbefore, lowerFrom_append,
    lowerWithin_of_startsAtStop false part hafter]

/-- A NUL character stands in the last part of the text only. -/
def NulInLastPart (cs : List Char) : Prop :=
  ∀ before after, cs = before ++ '\u0000' :: after → ∀ c ∈ after, isStop c = false

theorem nulInLastPart_of_not_mem {cs : List Char} (h : '\u0000' ∉ cs) : NulInLastPart cs := by
  rintro before after rfl
  exact absurd (List.mem_append_right _ List.mem_cons_self) h

/-- Then none stands before a part. -/
theorem NulInLastPart.nul_not_mem {before rest : List Char} (h : NulInLastPart (before ++ rest))
    (hbefore : EndsAtStop before) : '\u0000' ∉ before := by
  intro hmem
  obtain ⟨left, right, rfl⟩ := List.append_of_mem hmem
  have hstops := h left (right ++ rest) (by simp)
  rcases List.eq_nil_or_concat right with rfl | ⟨right, c, rfl⟩
  · have hstop := hbefore '\u0000' (by simp)
    exact absurd hstop (by decide)
  · have hlast : (left ++ '\u0000' :: right.concat c).getLast? = some c := by
      rw [List.concat_eq_append, ← List.cons_append, ← List.append_assoc]
      exact List.getLast?_concat
    have hstop := hbefore c hlast
    rw [hstops c (by simp)] at hstop
    cases hstop

/-- Between letters a sigma does not fold as it does at an end: `ΑΣΑ` contains `ΑΣ`, its folded
text does not contain the folded `ΑΣ`. -/
example : lowercase ['Α', 'Σ', 'Α'] = ['α', 'σ', 'α'] ∧ lowercase ['Α', 'Σ'] = ['α', 'ς'] := by
  decide +kernel

end MailSearch.Text
