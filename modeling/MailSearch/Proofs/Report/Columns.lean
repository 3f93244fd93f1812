import MailSearch.Report.Table
import MailSearch.Proofs.Text.Width

/-!
# Columns of tables

A cell is a text that is cut, if it is too wide, and filled up to its width. Whether it is too wide
is judged by the text as a whole (`textWidth`), but it is cut by its characters taken alone
(`charWidth`), so the start that is kept can be as wide as the cell, or wider.

* `truncate_cases`: a cut text is the text, or its kept start and an ellipsis.
* `textWidth_cell_eq_iff`: a cell has its width exactly if its text does not overflow it
  (`Overflows`).
* `not_overflows_of_not_widens`: no text overflows without a character that widens its place.
* `cells_keep_width`: both, and the cells of the messages start at the same columns exactly if no
  sender and no subject overflows. `hearts_overflow` is a sender who does.
-/

namespace MailSearch.Report

open Text

/-! ## Cut texts -/

theorem takeColumns_isPrefix (limit used : Nat) (cs : List Char) :
    takeColumns limit used cs <+: cs := by
  induction cs generalizing used with
  | nil => exact List.prefix_rfl
  | cons c cs ih =>
    unfold takeColumns
    split
    · exact List.nil_prefix
    · exact List.cons_prefix_cons.mpr ⟨rfl, ih _⟩

/-- The characters that are taken leave a column of the limit free. -/
theorem sum_takeColumns_lt {limit used : Nat} (h : used < limit) (cs : List Char) :
    used + ((takeColumns limit used cs).map charWidth).sum < limit := by
  induction cs generalizing used with
  | nil => simpa [takeColumns] using h
  | cons c cs ih =>
    unfold takeColumns
    split
    · simpa using h
    · rename_i hfits
      have hrest := @ih (used + charWidth c) (by omega)
      rw [List.map_cons, List.sum_cons]
      omega

/-- The start of a text that stands before the ellipsis when the text is cut. -/
def keptStart (width : Nat) (cs : List Char) : List Char :=
  if width ≤ 1 then [] else takeColumns width 0 cs

theorem keptStart_isPrefix (width : Nat) (cs : List Char) : keptStart width cs <+: cs := by
  unfold keptStart
  split
  · exact List.nil_prefix
  · exact takeColumns_isPrefix width 0 cs

theorem sum_keptStart_lt {width : Nat} (h : 1 ≤ width) (cs : List Char) :
    ((keptStart width cs).map charWidth).sum < width := by
  unfold keptStart
  split
  · exact h
  · have hsum := sum_takeColumns_lt h cs
    omega

theorem truncate_cases (width : Nat) (cs : List Char) :
    (textWidth cs ≤ width ∧ truncate width cs = cs) ∨
      (width < textWidth cs ∧ truncate width cs = keptStart width cs ++ ['…']) := by
  unfold truncate keptStart
  by_cases hfits : textWidth cs ≤ width
  · exact .inl ⟨hfits, if_pos hfits⟩
  · refine .inr ⟨Nat.lt_of_not_le hfits, ?_⟩
    rw [if_neg hfits]
    split <;> rfl

/-! ## Cells -/

theorem textWidth_padRight (width : Nat) (cs : List Char) :
    textWidth (padRight width cs) = max width (textWidth cs) := by
  rw [padRight, textWidth_append_spaces]
  omega

/-- A text overflows a cell if it does not fit, and neither does its kept start with an ellipsis. -/
def Overflows (width : Nat) (cs : List Char) : Prop :=
  width < textWidth cs ∧ width ≤ textWidth (keptStart width cs)

theorem textWidth_cell_eq_iff (width : Nat) (cs : List Char) :
    textWidth (cell width cs) = width ↔ ¬ Overflows width cs := by
  rw [cell, textWidth_padRight, Overflows]
  obtain ⟨hfits, hcut⟩ | ⟨hwide, hcut⟩ := truncate_cases width cs
  · rw [hcut]
    omega
  · rw [hcut, textWidth_append_ellipsis]
    omega

theorem not_overflows_of_not_widens {width : Nat} (hwidth : 1 ≤ width) {cs : List Char}
    (h : ∀ c ∈ cs, ¬ Widens c) : ¬ Overflows width cs := by
  rintro ⟨-, hkept⟩
  have hstart : ∀ c ∈ keptStart width cs, ¬ Widens c :=
    fun c hc => h c ((keptStart_isPrefix width cs).subset hc)
  have hsum := sum_keptStart_lt hwidth cs
  have hle := textWidth_le_sum hstart
  omega

/-! ## Rows -/

/-- The columns at which the cells of a row start: those that the cells before take, with a gap
behind each. -/
def columnStarts (cells : List (List Char)) : List Nat :=
  (List.range cells.length).map fun i => textWidth ((cells.take i).flatMap (· ++ [' ', ' ']))

/-- A cell and the gap behind it join with nothing. -/
theorem textWidth_append_gap (cs rest : List Char) :
    textWidth (cs ++ [' ', ' '] ++ rest) = textWidth cs + 2 + textWidth rest := by
  have hgap : measure ([' ', ' '] ++ rest) = ((measure rest).1 + 1 + 1, Shape.plain.alone) := by
    rw [List.cons_append, List.cons_append, measure_space, measure_space]
    rfl
  have hrest := textWidth_eq rest
  have hwidth := textWidth_eq ([' ', ' '] ++ rest)
  rw [List.append_assoc, textWidth_append cs (by rw [hgap])]
  rw [hgap] at hwidth
  simp only at hwidth
  omega

theorem columnStarts_nil : columnStarts [] = [] := rfl

/-- The first cell moves the others by its columns and its gap. -/
theorem columnStarts_cons (cs : List Char) (cells : List (List Char)) :
    columnStarts (cs :: cells) = 0 :: (columnStarts cells).map (textWidth cs + 2 + ·) := by
  rw [columnStarts, columnStarts, List.length_cons, List.range_succ_eq_map, List.map_cons,
    List.map_map, List.map_map]
  congr 1
  refine List.map_congr_left fun i _ => ?_
  exact textWidth_append_gap cs _

/-- The cells of the line of a message. -/
def messageCells (now : Calendar.Timestamp) (m : Message) : List (List Char) :=
  [padRight flagsWidth (flags m), cell fromWidth (senderText m).toList,
    cell subjectWidth (subjectText m).toList, truncate dateWidth (relativeDate now m.sentAt)]

theorem messageRow_eq (now : Calendar.Timestamp) (m : Message) :
    messageRow now m = row (messageCells now m) := rfl

theorem textWidth_flags (m : Message) : textWidth (padRight flagsWidth (flags m)) = 4 := by
  have hmarks : ∀ a b c d : Bool,
      textWidth [mark a '*', mark b 's', mark c '!', mark d '@'] = 4 := by decide +kernel
  rw [textWidth_padRight, flags, hmarks]
  rfl

/-- The cells of a message start at the columns of the header exactly if its sender and its subject
do not overflow. -/
theorem columnStarts_eq_iff (now : Calendar.Timestamp) (m : Message) :
    columnStarts (messageCells now m) = [0, 6, 32, 86] ↔
      ¬ Overflows fromWidth (senderText m).toList ∧
        ¬ Overflows subjectWidth (subjectText m).toList := by
  have hstarts : columnStarts (messageCells now m) =
      [0, 6, 6 + (textWidth (cell fromWidth (senderText m).toList) + 2),
        6 + (textWidth (cell fromWidth (senderText m).toList) + 2 +
          (textWidth (cell subjectWidth (subjectText m).toList) + 2))] := by
    simp only [messageCells, columnStarts_cons, columnStarts_nil, List.map_cons, List.map_nil,
      textWidth_flags]
  rw [← textWidth_cell_eq_iff, ← textWidth_cell_eq_iff, hstarts]
  simp only [List.cons.injEq, true_and, and_true, fromWidth, subjectWidth]
  omega

/-- The header has its cells there, too. -/
example : columnStarts [fill flagsWidth [], fill fromWidth "From".toList,
    fill subjectWidth "Subject".toList, fill dateWidth "Date".toList] = [0, 6, 32, 86] := by
  decide +kernel

/-- **Cells keep their width.** A text that fits stands in its cell as it is, and of any other one a
start with an ellipsis. The cell has its width exactly if the text does not overflow it, and no text
does whose characters do not widen their places. So the cells in the row of a message stand at the
columns of the header exactly if neither its sender nor its subject overflows. -/
theorem cells_keep_width {width : Nat} (hwidth : 1 ≤ width) (cs : List Char) :
    (textWidth cs ≤ width ∧ truncate width cs = cs ∨
      width < textWidth cs ∧ keptStart width cs <+: cs ∧
        truncate width cs = keptStart width cs ++ ['…']) ∧
    (textWidth (cell width cs) = width ↔ ¬ Overflows width cs) ∧
    ((∀ c ∈ cs, ¬ Widens c) → ¬ Overflows width cs) ∧
    ∀ now m, messageRow now m = row (messageCells now m) ∧
      (columnStarts (messageCells now m) = [0, 6, 32, 86] ↔
        ¬ Overflows fromWidth (senderText m).toList ∧
          ¬ Overflows subjectWidth (subjectText m).toList) := by
  refine ⟨?_, textWidth_cell_eq_iff width cs, not_overflows_of_not_widens hwidth,
    fun now m => ⟨messageRow_eq now m, columnStarts_eq_iff now m⟩⟩
  exact (truncate_cases width cs).imp_right fun ⟨hwide, hcut⟩ =>
    ⟨hwide, keptStart_isPrefix width cs, hcut⟩

/-- Six wide characters are cut after four of them, and the cell has its nine columns. -/
theorem cells_keep_width_sample :
    1 ≤ 9 ∧ truncate 9 ['日', '本', '語', 'の', '件', '名'] = ['日', '本', '語', 'の', '…'] ∧
      textWidth (cell 9 ['日', '本', '語', 'の', '件', '名']) = 9 := by
  have hplain : ∀ c ∈ ['日', '本', '語', 'の', '件', '名'], ¬ Widens c := by simp [Widens]
  have hcut : truncate 9 ['日', '本', '語', 'の', '件', '名'] = ['日', '本', '語', 'の', '…'] := by
    decide +kernel
  obtain ⟨-, hiff, hfits, -⟩ := cells_keep_width (by decide : 1 ≤ 9) ['日', '本', '語', 'の', '件', '名']
  exact ⟨by decide, hcut, hiff.mpr (hfits hplain)⟩

/-- A heart is drawn as a picture of two columns, but its character alone takes one. Of a sender of
thirteen hearts, who needs two columns more than the cell has, none is cut off, and the ellipsis
makes it three. -/
theorem hearts_overflow :
    let hearts := (List.replicate 13 ['\u2764', '\uFE0F']).flatten
    truncate fromWidth hearts = hearts ++ ['…'] ∧ fromWidth = 24 ∧
      textWidth (cell fromWidth hearts) = 27 := by
  decide +kernel

end MailSearch.Report
