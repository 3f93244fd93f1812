import Mathlib
import MailSearch.Text.Width

/-!
# Columns of texts

A text is measured from its end, and what a character adds depends on what stands to its right
(`Text.step`). Two bounds carry over from each step to the whole text:

* `Shape.reserve`: the columns that a character may still take back. They are among those of the
  text (`reserve_measure`), so no text takes less than none (`measure_nonneg`).
* `Shape.slack`: the columns that a text takes less than its characters alone, and that a character
  may still give back. `textWidth_le_sum`: a text takes no more columns than its characters taken
  alone, unless one of them is among the few that widen their place (`Widens`).

`Balanced` says both of one step, and `join?_balanced`, `codeShape_balanced` and
`stepWide_balanced` follow the definition of the step. `textWidth_append`: a text behind another
adds its own columns if it joins with nothing.
-/

namespace MailSearch.Text

/-! ## Code points that take a column -/

/-- Whether no code point lies in ranges of both lists. -/
def CodeRanges.apart (rs zs : CodeRanges) : Bool :=
  rs.all fun r => zs.all fun z => Nat.blt r.2 z.1 || Nat.blt z.2 r.1

theorem CodeRanges.covers_of_apart {rs zs : CodeRanges} (h : rs.apart zs = true) {code : Nat}
    (hcode : rs.covers code = true) : zs.covers code = false := by
  obtain ⟨r, hr, hfirst, hlast⟩ := (rs.covers_iff code).mp hcode
  rw [← Bool.not_eq_true, CodeRanges.covers_iff]
  rintro ⟨z, hz, hfirst', hlast'⟩
  have hapart := List.all_eq_true.mp (List.all_eq_true.mp h r hr) z hz
  simp only [Bool.or_eq_true, Nat.blt_eq] at hapart
  omega

theorem one_le_codeWidth {code : Nat} (h : zeroWidthRanges.covers code = false) :
    1 ≤ codeWidth code := by
  unfold codeWidth
  rw [h]
  split
  · decide
  · split
    · contradiction
    · split <;> decide

theorem within_iff {first last code : Nat} :
    within first last code = true ↔ first ≤ code ∧ code ≤ last := by
  simp [within]

/-- The code points within two others take a column if none of them is invisible. -/
theorem one_le_codeWidth_of_within {first last code : Nat}
    (h : CodeRanges.apart [(first, last)] zeroWidthRanges = true)
    (hcode : within first last code = true) : 1 ≤ codeWidth code := by
  refine one_le_codeWidth (CodeRanges.covers_of_apart h ?_)
  simpa [CodeRanges.covers, within] using hcode

theorem one_le_codeWidth_of_isIndicator {code : Nat} (h : isIndicator code = true) :
    1 ≤ codeWidth code :=
  one_le_codeWidth_of_within (by decide +kernel) h

theorem one_le_codeWidth_of_isKhmerLetter {code : Nat} (h : isKhmerLetter code = true) :
    1 ≤ codeWidth code := by
  have hwithin : within 0x1780 0x17AF code = true := by
    simp only [isKhmerLetter, Bool.or_eq_true, within_iff, beq_iff_eq] at h
    rw [within_iff]
    omega
  exact one_le_codeWidth_of_within (by decide +kernel) hwithin

theorem one_le_codeWidth_of_hasNarrowText {code : Nat} (h : hasNarrowText code = true) :
    1 ≤ codeWidth code := by
  have hapart : emojiRanges.apart zeroWidthRanges = true := by decide +kernel
  simp only [hasNarrowText, Bool.and_eq_true] at h
  exact one_le_codeWidth (CodeRanges.covers_of_apart hapart h.1.2)

/-! ## What a step can take and give -/

/-- The columns that are sure to stand to the right, and that a character can take back. -/
def Shape.reserve : Shape → Int
  | .joinedIndicator | .joinedOdd | .tifinaghJoiner | .khmerLetter => 1
  | _ => 0

/-- The columns that characters to the right take less than they would alone, and that a character
can give back. -/
def Shape.slack : Shape → Int
  | .joinedEven => 2
  | _ => 0

theorem Shape.reserve_nonneg (s : Shape) : 0 ≤ s.reserve := by
  unfold reserve
  split <;> decide

theorem Shape.slack_nonneg (s : Shape) : 0 ≤ s.slack := by
  unfold slack
  split <;> decide

/-- What is added before something else, against the width that it has alone. -/
structure Balanced (right : Right) (code : Nat) (added : Int) (next : Right) : Prop where
  /-- What can be taken back is there. -/
  reserve : next.shape.reserve ≤ right.shape.reserve + added
  /-- No more is added than the code point takes alone, and than was left out before. -/
  slack : code ≠ 0x2D7F → added + next.shape.slack ≤ codeWidth code + right.shape.slack
  /-- Only the selector for a picture asks for one. -/
  selector : code ≠ 0xFE0F → next.selector ≠ some .picture

/-- Columns of the code point itself are added, and nothing is kept for later. -/
theorem Balanced.of_settled (right : Right) {code : Nat} {shape : Shape} {added : Int}
    (hreserve : shape.reserve = 0) (hslack : shape.slack = 0) (h0 : 0 ≤ added)
    (hwidth : added ≤ codeWidth code) : Balanced right code added shape.alone := by
  have hright := right.shape.reserve_nonneg
  have hright' := right.shape.slack_nonneg
  constructor
  case reserve =>
    show shape.reserve ≤ _
    omega
  case slack =>
    show _ → added + shape.slack ≤ _
    omega
  case selector => exact fun _ => nofun

theorem Balanced.of_zero (right : Right) (code : Nat) {shape : Shape} (hreserve : shape.reserve = 0)
    (hslack : shape.slack = 0) : Balanced right code 0 shape.alone :=
  .of_settled right hreserve hslack (Int.le_refl 0) (Int.natCast_nonneg _)

/-! ## The steps -/

/-- What a selector or a joiner leaves of what stands to the right: its shape, or nothing that
joins. -/
def Right.Leaves (right next : Right) : Prop :=
  next.shape = right.shape ∨ next.shape = .plain

theorem Right.leaves_withPicture (right : Right) : right.Leaves right.withPicture := by
  unfold withPicture
  split
  · exact .inl rfl
  · exact .inr rfl

theorem Right.leaves_withText (right : Right) : right.Leaves right.withText := by
  unfold withText
  split
  · exact .inl rfl
  · exact .inr rfl

theorem Right.leaves_dropSelector (right : Right) : right.Leaves right.dropSelector := by
  unfold dropSelector
  split
  · exact .inl rfl
  · split
    · exact .inl rfl
    · exact .inr rfl

theorem Right.Leaves.reserve_le {right next : Right} (h : right.Leaves next) :
    next.shape.reserve ≤ right.shape.reserve := by
  rcases h with h | h
  · exact Int.le_of_eq (congrArg Shape.reserve h)
  · rw [h]
    exact right.shape.reserve_nonneg

theorem Right.Leaves.slack_le {right next : Right} (h : right.Leaves next) :
    next.shape.slack ≤ right.shape.slack := by
  rcases h with h | h
  · exact Int.le_of_eq (congrArg Shape.slack h)
  · rw [h]
    exact right.shape.slack_nonneg

/-- What is added before less is added before more. -/
theorem Balanced.of_leaves {right right' next : Right} {code : Nat} {added : Int}
    (hright : right.Leaves right') (h : Balanced right' code added next) :
    Balanced right code added next := by
  have hreserve := hright.reserve_le
  have hslack := hright.slack_le
  constructor
  case reserve =>
    have := h.reserve
    omega
  case slack =>
    intro hcode
    have := h.slack hcode
    omega
  case selector => exact h.selector

theorem Balanced.of_leaves_zero {right next : Right} {code : Nat} (h : right.Leaves next)
    (hselector : code ≠ 0xFE0F → next.selector ≠ some .picture) : Balanced right code 0 next := by
  have hreserve := h.reserve_le
  have hslack := h.slack_le
  constructor
  case reserve => omega
  case slack => omega
  case selector => exact hselector

/-- What a code point alone shows to its left. -/
structure Right.OfCode (code : Nat) (next : Right) : Prop where
  slack : next.shape.slack = 0
  reserve : next.shape.reserve ≤ codeWidth code
  selector : code ≠ 0xFE0F → next.selector ≠ some .picture

theorem codeShape_ofCode (code : Nat) : (codeShape code).OfCode code := by
  have hwidth : (0 : Int) ≤ codeWidth code := Int.natCast_nonneg _
  unfold codeShape
  refine iteInduction (fun hcode => ⟨rfl, hwidth, absurd hcode⟩) fun _ => ?_
  -- Of the shapes, only that of a Khmer letter keeps a column in reserve.
  repeat refine iteInduction (fun _ => ⟨rfl, hwidth, fun _ => by decide⟩) fun _ => ?_
  refine iteInduction (fun hkhmer => ⟨rfl, ?_, fun _ => by decide⟩)
    fun _ => ⟨rfl, hwidth, fun _ => by decide⟩
  exact Int.ofNat_le.mpr (one_le_codeWidth_of_isKhmerLetter hkhmer)

theorem codeShape_balanced (right : Right) (code : Nat) :
    Balanced right code (codeWidth code) (codeShape code) := by
  have hreserve := right.shape.reserve_nonneg
  have hslack := right.shape.slack_nonneg
  have halone := codeShape_ofCode code
  constructor
  case reserve =>
    have := halone.reserve
    omega
  case slack =>
    have := halone.slack
    omega
  case selector => exact halone.selector

/-- A join takes back at most what is in reserve, and gives back at most what was left out. -/
theorem join?_balanced {right next : Right} {code : Nat} {added : Int}
    (h : join? right code = some (added, next)) : Balanced right code added next := by
  have hindicator := @one_le_codeWidth_of_isIndicator code
  obtain ⟨shape, joiner, selector⟩ := right
  cases shape with
  | plain | lineFeed | joinedKeycap => cases h
  | alef | skinTone | emoji | tagLetters | tagDigits | bugineseVowel | lisuTone =>
    simp only [join?] at h
    repeat' split at h
    all_goals cases h
    all_goals exact .of_zero _ _ rfl rfl
  | lamed | bugineseYa | orkhonI =>
    cases joiner with
    | false => cases h
    | true =>
      simp only [join?] at h
      split at h
      · cases h
        exact .of_zero _ _ rfl rfl
      · cases h
  | indicator | indicators | joinedEmoji | joinedIndicator | joinedEven | joinedOdd =>
    -- Indicators come in pairs: what one of them takes back, the next one gives again.
    simp only [join?] at h
    repeat' split at h
    all_goals cases h
    all_goals try exact .of_zero _ _ rfl rfl
    all_goals
      have hwidth := hindicator ‹_›
      refine ⟨?_, fun _ => ?_, fun _ => nofun⟩ <;>
        simp only [Shape.alone, Shape.reserve, Shape.slack] <;> omega
  | tifinagh | tifinaghJoiner | khmerLetter =>
    simp only [join?] at h
    repeat' split at h
    all_goals cases h
    all_goals try exact .of_zero _ _ rfl rfl
    all_goals
      refine ⟨?_, fun _ => ?_, fun _ => nofun⟩ <;>
        simp only [Shape.alone, Shape.reserve, Shape.slack] <;> omega

theorem Right.selector_withText (right : Right) : right.withText.selector = some .text := by
  unfold withText
  split <;> rfl

theorem Right.selector_dropSelector (right : Right) : right.dropSelector.selector = none := by
  unfold dropSelector
  split
  · assumption
  · split <;> rfl

theorem stepWide_balanced (right : Right) (code : Nat) :
    Balanced right code (stepWide right code).1 (stepWide right code).2 := by
  unfold stepWide
  split
  · rename_i hcode
    exact .of_leaves_zero right.leaves_withPicture (absurd hcode)
  split
  · refine .of_leaves_zero right.leaves_withText fun _ => ?_
    rw [right.selector_withText]
    decide
  split
  · rename_i htext
    have hnarrow : hasNarrowText code = true := (Bool.and_eq_true_iff.mp htext).2
    have hwidth := one_le_codeWidth_of_hasNarrowText hnarrow
    exact .of_settled right rfl rfl (by decide) (Int.ofNat_le.mpr hwidth)
  simp only
  refine .of_leaves right.leaves_dropSelector ?_
  have hselector := right.selector_dropSelector
  generalize right.dropSelector = right at hselector
  have hpicture : right.selector ≠ some .picture := by
    rw [hselector]
    decide
  split
  · have hleaves : right.Leaves { right with joiner := true } := .inl rfl
    exact .of_leaves_zero hleaves fun _ => hpicture
  split
  · exact .of_leaves_zero (.inl rfl) fun _ => hpicture
  cases hjoin : join? right code with
  | none => exact codeShape_balanced right code
  | some r => exact join?_balanced hjoin

/-- A character makes a picture of the selector behind it, or it is one of the first, narrow ones,
or it stands before what its place leaves of the right. -/
theorem step_cases (right : Right) (c : Char) :
    (right.selector = some .picture ∧
      ∃ added, (added = 0 ∨ added = 2) ∧ step right c = (added, Shape.emoji.alone)) ∨
    (c.toNat ≤ 0xA0 ∧ ∃ added shape, (added = 0 ∨ (added = 1 ∧ c ≠ '\n')) ∧
      (shape = .lineFeed ∨ shape = .plain) ∧ step right c = (added, Shape.alone shape)) ∨
    (0xA0 < c.toNat ∧ ∃ right', right.Leaves right' ∧ step right c = stepWide right' c.toNat) := by
  by_cases hpicture : (right.selector = some .picture && hasPictureForm c.toNat) = true
  · refine .inl ⟨by simpa using (Bool.and_eq_true_iff.mp hpicture).1, _, ?_, if_pos hpicture⟩
    split
    · exact .inl rfl
    · exact .inr rfl
  have hstep : step right c = _ := if_neg hpicture
  have hleaves : right.Leaves
      (if right.selector = some .picture then right.dropSelector else right) := by
    split
    · exact right.leaves_dropSelector
    · exact .inl rfl
  generalize (if right.selector = some .picture then right.dropSelector else right) = right'
    at hstep hleaves
  by_cases hcode : c.toNat ≤ 0xA0
  · refine .inr (.inl ⟨hcode, ?_⟩)
    simp only [hcode, if_true] at hstep
    rw [hstep]
    split
    · exact ⟨0, .lineFeed, .inl rfl, .inl rfl, rfl⟩
    · rename_i hne
      split
      · exact ⟨0, .plain, .inl rfl, .inr rfl, rfl⟩
      · exact ⟨1, .plain, .inr ⟨rfl, hne⟩, .inr rfl, rfl⟩
  · simp only [hcode, if_false] at hstep
    exact .inr (.inr ⟨Nat.lt_of_not_le hcode, right', hleaves, hstep⟩)

theorem step_reserve (right : Right) (c : Char) :
    (step right c).2.shape.reserve ≤ right.shape.reserve + (step right c).1 := by
  have hright := right.shape.reserve_nonneg
  obtain ⟨-, added, hadded, hstep⟩ | ⟨-, added, shape, hadded, hshape, hstep⟩ |
    ⟨-, right', hleaves, hstep⟩ := step_cases right c
  · rw [hstep]
    show (0 : Int) ≤ _ + added
    omega
  · rw [hstep]
    have hzero : shape.reserve = 0 := by rcases hshape with rfl | rfl <;> rfl
    show shape.reserve ≤ _ + added
    omega
  · rw [hstep]
    exact ((stepWide_balanced right' c.toNat).of_leaves hleaves).reserve

/-! ## Texts -/

/-- The characters that can take more columns within a text than alone: the control characters but
the line feed, the selector that asks for a picture, and the joiner of Tifinagh letters. -/
def Widens (c : Char) : Prop :=
  (c.toNat < 0x20 ∧ c ≠ '\n') ∨ (0x7F ≤ c.toNat ∧ c.toNat < 0xA0) ∨ c.toNat = 0xFE0F ∨
    c.toNat = 0x2D7F

instance (c : Char) : Decidable (Widens c) := by
  unfold Widens; infer_instance

theorem charWidth_of_wide {c : Char} (h : 0xA0 < c.toNat) : charWidth c = codeWidth c.toNat := by
  simp only [charWidth]
  rw [if_neg (by simp; omega), if_neg (by omega)]

theorem charWidth_of_narrow {c : Char} (h : c.toNat ≤ 0xA0) (hwidens : ¬ Widens c)
    (hne : c ≠ '\n') : charWidth c = 1 := by
  simp only [Widens, hne, ne_eq, not_false_eq_true, and_true, not_or] at hwidens
  simp only [charWidth]
  rw [if_neg (by simp; omega), if_pos h]

/-- A character that does not widen adds no more than it takes alone, and than was left out
before. -/
theorem step_slack {right : Right} {c : Char} (hwidens : ¬ Widens c)
    (hright : right.selector ≠ some .picture) :
    (step right c).1 + (step right c).2.shape.slack ≤ charWidth c + right.shape.slack ∧
      (step right c).2.selector ≠ some .picture := by
  have hslack := right.shape.slack_nonneg
  obtain ⟨hpicture, -⟩ | ⟨hcode, added, shape, hadded, hshape, hstep⟩ |
    ⟨hcode, right', hleaves, hstep⟩ := step_cases right c
  · exact absurd hpicture hright
  · rw [hstep]
    refine ⟨?_, nofun⟩
    have hzero : shape.slack = 0 := by rcases hshape with rfl | rfl <;> rfl
    show added + shape.slack ≤ _
    rcases hadded with rfl | ⟨rfl, hne⟩
    · omega
    · rw [charWidth_of_narrow hcode hwidens hne]
      omega
  · have hbalanced := (stepWide_balanced right' c.toNat).of_leaves hleaves
    simp only [Widens, not_or] at hwidens
    rw [hstep, charWidth_of_wide hcode]
    exact ⟨hbalanced.slack hwidens.2.2.2, hbalanced.selector hwidens.2.2.1⟩

theorem measure_cons (c : Char) (cs : List Char) :
    measure (c :: cs) =
      ((measure cs).1 + (step (measure cs).2 c).1, (step (measure cs).2 c).2) := rfl

/-- What can be taken back of a text is among its columns. -/
theorem reserve_measure (cs : List Char) : (measure cs).2.shape.reserve ≤ (measure cs).1 := by
  induction cs with
  | nil => decide
  | cons c cs ih =>
    have hstep := step_reserve (measure cs).2 c
    rw [measure_cons]
    simp only
    omega

/-- No text takes less than no column. -/
theorem measure_nonneg (cs : List Char) : 0 ≤ (measure cs).1 :=
  Int.le_trans (Shape.reserve_nonneg _) (reserve_measure cs)

theorem textWidth_eq (cs : List Char) : (textWidth cs : Int) = (measure cs).1 :=
  Int.toNat_of_nonneg (measure_nonneg cs)

/-- A text without characters that widen takes no more than they take alone, and what it lends. -/
theorem measure_slack {cs : List Char} (h : ∀ c ∈ cs, ¬ Widens c) :
    (measure cs).1 + (measure cs).2.shape.slack ≤ (cs.map charWidth).sum ∧
      (measure cs).2.selector ≠ some .picture := by
  induction cs with
  | nil => decide
  | cons c cs ih =>
    obtain ⟨hsum, hselector⟩ := ih fun d hd => h d (List.mem_cons_of_mem _ hd)
    obtain ⟨hstep, hnext⟩ := step_slack (h c List.mem_cons_self) hselector
    rw [measure_cons, List.map_cons, List.sum_cons]
    refine ⟨?_, hnext⟩
    simp only [Int.natCast_add]
    omega

/-- **Widths add up.** A text takes no more columns than its characters taken alone, unless one of
them widens. -/
theorem textWidth_le_sum {cs : List Char} (h : ∀ c ∈ cs, ¬ Widens c) :
    textWidth cs ≤ (cs.map charWidth).sum := by
  have hsum := (measure_slack h).1
  have hslack := (measure cs).2.shape.slack_nonneg
  have hwidth := textWidth_eq cs
  omega

/-! ## Texts behind one another -/

/-- What joins with nothing to its left leaves the text before it as it is. -/
theorem measure_append (xs : List Char) {ys : List Char} (h : (measure ys).2 = Shape.plain.alone) :
    measure (xs ++ ys) = ((measure ys).1 + (measure xs).1, (measure xs).2) := by
  induction xs with
  | nil =>
    show measure ys = ((measure ys).1 + 0, Shape.plain.alone)
    rw [← h, Int.add_zero]
  | cons x xs ih =>
    rw [List.cons_append, measure_cons, ih, measure_cons, Int.add_assoc]

theorem textWidth_append (xs : List Char) {ys : List Char}
    (h : (measure ys).2 = Shape.plain.alone) :
    textWidth (xs ++ ys) = textWidth xs + textWidth ys := by
  have hx := textWidth_eq xs
  have hy := textWidth_eq ys
  have hxy := textWidth_eq (xs ++ ys)
  rw [measure_append xs h] at hxy
  simp only at hxy
  omega

/-- A space takes a column and joins with nothing. -/
theorem measure_space (cs : List Char) :
    measure (' ' :: cs) = ((measure cs).1 + 1, Shape.plain.alone) := by
  have hform : hasPictureForm 32 = false := by decide +kernel
  have hstep : step (measure cs).2 ' ' = (1, Shape.plain.alone) := by
    simp [step, hform]
  rw [measure_cons, hstep]

theorem measure_spaces (n : Nat) :
    measure (List.replicate n ' ') = ((n : Int), Shape.plain.alone) := by
  induction n with
  | zero => rfl
  | succ n ih =>
    rw [List.replicate_succ, measure_space, ih]
    rfl

theorem textWidth_append_spaces (cs : List Char) (n : Nat) :
    textWidth (cs ++ List.replicate n ' ') = textWidth cs + n := by
  have hspaces : textWidth (List.replicate n ' ') = n := by
    rw [textWidth, measure_spaces, Int.toNat_natCast]
  rw [textWidth_append cs (by rw [measure_spaces]), hspaces]

theorem measure_ellipsis : measure ['…'] = (1, Shape.plain.alone) := by decide +kernel

theorem textWidth_append_ellipsis (cs : List Char) :
    textWidth (cs ++ ['…']) = textWidth cs + 1 := by
  rw [textWidth_append cs (by rw [measure_ellipsis]), textWidth, textWidth, measure_ellipsis]
  rfl

end MailSearch.Text
