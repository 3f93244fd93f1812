import MailSearch.Text.Lowercase

/-!
# Folded texts

What folding leaves in a text, as far as patterns can tell:

* `toLower_of_mem_lowercase`: no ASCII letter is left in upper case.
* `isPlain_lowercase`: the noncharacters that patterns cannot tell apart do not come in, and neither
  does the NUL character that patterns end at.
* `nul_mem_lowercase`: folding neither brings a NUL character in nor takes one out.
* `lowercase_eq_nil_iff`: only the empty text folds to the empty text.
-/

namespace MailSearch.Text

/-- Neither the NUL character nor the two noncharacters at the end of the first plane occur. -/
def IsPlain (cs : List Char) : Prop :=
  ∀ c ∈ cs, c.toNat ≠ 0 ∧ c.toNat ≠ 0xFFFE ∧ c.toNat ≠ 0xFFFF

instance (cs : List Char) : Decidable (IsPlain cs) := List.decidableBAll _ cs

theorem isPlain_nil : IsPlain [] := by simp [IsPlain]

/-! ## Single characters -/

/-- Outside the capital letters, ASCII lower case changes nothing. -/
theorem toLower_eq_self {c : Char} (h : c.toNat < 0x41 ∨ 0x5A < c.toNat) : c.toLower = c := by
  unfold Char.toLower
  rw [dif_neg]
  rintro ⟨hlo, hhi⟩
  have h1 : 0x41 ≤ c.toNat := hlo
  have h2 : c.toNat ≤ 0x5A := hhi
  omega

theorem toNat_toLower_lt {c : Char} (h : c.toNat < 0x80) :
    c.toLower.toNat < 0x80 ∧ (c.toLower.toNat < 0x41 ∨ 0x5A < c.toLower.toNat) ∧
      (c.toLower.toNat = 0 → c.toLower = c) := by
  have hall : ∀ n, n < 0x80 → (Char.ofNat n).toLower.toNat < 0x80 ∧
      ((Char.ofNat n).toLower.toNat < 0x41 ∨ 0x5A < (Char.ofNat n).toLower.toNat) ∧
      ((Char.ofNat n).toLower.toNat = 0 → (Char.ofNat n).toLower = Char.ofNat n) := by
    decide
  have := hall c.toNat h
  rwa [Char.ofNat_toNat] at this

/-- The runs of the case table lead to characters, and to none of the capital ASCII letters, the
replacement character and the noncharacters. -/
theorem lowerRuns_targets : ∀ run ∈ lowerRuns, 0x5A < run.target ∧
    (run.target + (run.last - run.first) < 0xD800 ∨
      (0xDFFF < run.target ∧ run.target + (run.last - run.first) < 0xFFFD) ∨
      (0xFFFF < run.target ∧ run.target + (run.last - run.first) < 0x110000)) := by
  decide +kernel

theorem toNat_ofNat {n : Nat} (h : n.isValidChar) : (Char.ofNat n).toNat = n := by
  unfold Char.ofNat
  rw [dif_pos h]
  rfl

theorem toNat_ofNat_cases (n : Nat) : (Char.ofNat n).toNat = n ∨ (Char.ofNat n).toNat = 0 := by
  by_cases h : n.isValidChar
  · exact .inl (toNat_ofNat h)
  · right
    unfold Char.ofNat
    rw [dif_neg h]
    rfl

/-- The lower-case form of a character is no capital ASCII letter. It is the NUL character, the
replacement character or a noncharacter only if the character is. -/
theorem lowerChar_plain (c : Char) :
    ((lowerChar c).toNat < 0x41 ∨ 0x5A < (lowerChar c).toNat) ∧
      ((lowerChar c).toNat = 0 ∨ (0xFFFD ≤ (lowerChar c).toNat ∧ (lowerChar c).toNat ≤ 0xFFFF) →
        lowerChar c = c) := by
  unfold lowerChar
  by_cases hc : c.toNat < 0x80
  · obtain ⟨hlt, hcase, hnul⟩ := toNat_toLower_lt hc
    rw [if_pos hc]
    exact ⟨hcase, fun h => hnul (by omega)⟩
  rw [if_neg hc]
  cases hrun : lowerRuns.findSome? (·.lower? c.toNat) with
  | none => exact ⟨.inr (by simp only [Option.map_none, Option.getD_none]; omega), fun _ => rfl⟩
  | some n =>
    obtain ⟨run, hmem, hlower⟩ := List.exists_of_findSome?_eq_some hrun
    obtain ⟨htarget, hrange⟩ := lowerRuns_targets run hmem
    unfold LowerRun.lower? at hlower
    split at hlower
    · rename_i hin
      have hn : run.target + (c.toNat - run.first) = n := Option.some.inj hlower
      simp only [Option.map_some, Option.getD_some]
      rw [toNat_ofNat (show n.isValidChar by unfold Nat.isValidChar; omega)]
      exact ⟨by omega, fun h => by omega⟩
    · cases hlower

/-! ## Texts -/

/-- A character of a lower-case form is one of four letters, or the lower-case form of the character
taken alone. -/
theorem mem_lowerForm {afterCased : Bool} {c d : Char} {rest : List Char}
    (h : d ∈ lowerForm afterCased c rest) :
    d ∈ ['ς', 'σ', 'i', '\u0307'] ∨ d = lowerChar c := by
  unfold lowerForm at h
  split at h
  · split at h <;> simp only [List.mem_singleton] at h <;> rw [h] <;> exact .inl (by decide)
  · split at h
    · simp only [List.mem_cons, List.not_mem_nil, or_false] at h
      rcases h with rfl | rfl <;> exact .inl (by decide)
    · simp only [List.mem_singleton] at h
      exact .inr h

theorem mem_lowerFrom {afterCased : Bool} {cs : List Char} {d : Char}
    (h : d ∈ lowerFrom afterCased cs) :
    d ∈ ['ς', 'σ', 'i', '\u0307'] ∨ ∃ c ∈ cs, d = lowerChar c := by
  induction cs generalizing afterCased with
  | nil => cases h
  | cons c cs ih =>
    rw [lowerFrom, List.mem_append] at h
    rcases h with h | h
    · exact (mem_lowerForm h).imp_right fun h => ⟨c, List.mem_cons_self, h⟩
    · exact (ih h).imp_right fun ⟨e, he, hd⟩ => ⟨e, List.mem_cons_of_mem _ he, hd⟩

/-- The letters that lower-case forms take from elsewhere than the case table. -/
theorem special_plain : ∀ d ∈ ['ς', 'σ', 'i', '\u0307'],
    d.toLower = d ∧ d.toNat ≠ 0 ∧ d.toNat ≠ 0xFFFE ∧ d.toNat ≠ 0xFFFF := by
  simp only [List.forall_mem_cons]
  exact ⟨by decide, by decide, by decide, by decide, by simp⟩

/-- No ASCII letter is left in upper case. -/
theorem toLower_of_mem_lowercase {cs : List Char} {d : Char} (h : d ∈ lowercase cs) :
    d.toLower = d := by
  rcases mem_lowerFrom h with h | ⟨c, -, rfl⟩
  · exact (special_plain d h).1
  · exact toLower_eq_self (lowerChar_plain c).1

/-- A plain text folds to a plain text. -/
theorem isPlain_lowercase {cs : List Char} (h : IsPlain cs) : IsPlain (lowercase cs) := by
  intro d hd
  rcases mem_lowerFrom hd with hd | ⟨c, hc, rfl⟩
  · exact (special_plain d hd).2
  · have hplain := h c hc
    by_cases hbad : lowerChar c = c
    · rwa [hbad]
    · have := mt (lowerChar_plain c).2 hbad
      omega

/-- A character that is its own lower-case form wherever it stands stays in a text. -/
theorem mem_lowerFrom_of_fixed {c : Char}
    (h : ∀ afterCased rest, lowerForm afterCased c rest = [c]) {cs : List Char} (hc : c ∈ cs)
    (afterCased : Bool) : c ∈ lowerFrom afterCased cs := by
  induction cs generalizing afterCased with
  | nil => cases hc
  | cons d cs ih =>
    rw [lowerFrom, List.mem_append]
    rcases List.mem_cons.mp hc with rfl | hc
    · rw [h]
      exact .inl List.mem_cons_self
    · exact .inr (ih hc _)

theorem lowerForm_nul (afterCased : Bool) (rest : List Char) :
    lowerForm afterCased '\u0000' rest = ['\u0000'] := by
  have hlower : lowerChar '\u0000' = '\u0000' := by decide
  rw [lowerForm, if_neg (by decide), if_neg (by decide), hlower]

/-- No other character has a NUL character in its lower-case form. -/
theorem nul_not_mem_lowerForm {c : Char} (h : c ≠ '\u0000') (afterCased : Bool)
    (rest : List Char) : ∀ d ∈ lowerForm afterCased c rest, d ≠ '\u0000' := by
  rintro d hd rfl
  rcases mem_lowerForm hd with hd | hd
  · exact (special_plain _ hd).2.1 rfl
  · have hnul : (lowerChar c).toNat = 0 := by rw [← hd]; rfl
    rw [(lowerChar_plain c).2 (.inl hnul)] at hd
    exact h hd.symm

/-- Folding neither brings a NUL character in nor takes one out. -/
theorem nul_mem_lowercase {cs : List Char} : '\u0000' ∈ lowercase cs ↔ '\u0000' ∈ cs := by
  refine ⟨fun h => ?_, fun h => mem_lowerFrom_of_fixed lowerForm_nul h false⟩
  rcases mem_lowerFrom h with h | ⟨c, hc, hd⟩
  · exact absurd rfl (special_plain _ h).2.1
  · have hnul : (lowerChar c).toNat = 0 := by rw [← hd]; rfl
    rwa [hd, (lowerChar_plain c).2 (.inl hnul)]

theorem lowerForm_ne_nil (afterCased : Bool) (c : Char) (rest : List Char) :
    lowerForm afterCased c rest ≠ [] := by
  unfold lowerForm
  split
  · simp
  · split <;> simp

/-- Folding leaves no text with fewer characters. -/
theorem length_le_lowerFrom (afterCased : Bool) (cs : List Char) :
    cs.length ≤ (lowerFrom afterCased cs).length := by
  induction cs generalizing afterCased with
  | nil => exact Nat.le_refl _
  | cons c cs ih =>
    have hhead := List.length_pos_iff.mpr (lowerForm_ne_nil afterCased c cs)
    have htail := ih (if isCaseIgnorable c then afterCased else isCased c)
    rw [lowerFrom, List.length_append, List.length_cons]
    omega

/-- Only the empty text folds to the empty text. -/
theorem lowercase_eq_nil_iff {cs : List Char} : lowercase cs = [] ↔ cs = [] := by
  constructor
  · intro h
    cases cs with
    | nil => rfl
    | cons c cs =>
      rw [lowercase, lowerFrom, List.append_eq_nil_iff] at h
      exact absurd h.1 (lowerForm_ne_nil _ _ _)
  · rintro rfl
    rfl

end MailSearch.Text
