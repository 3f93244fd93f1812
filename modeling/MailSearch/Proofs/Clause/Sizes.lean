import MailSearch.Proofs.Clause.Stored

/-!
# Sizes and their bounds

A bound is a number of 64 bits, and the column of sizes holds a signed one. A larger bound is
replaced by the largest number that the column can hold, and this is one that an attachment can
have. Only there does the store differ from the memory (`SizeSide.Misses`).

* `AttachmentRow.exists_of_iff`: the sizes that are stored at all.
* `SizeSide.holds_stored_iff`: when a stored size compares with a bound as the size itself.
* `sizes_compared_iff`: so does the condition for a bound on a stored attachment.
-/

namespace MailSearch

open Text

/-- An attachment is stored exactly if the column can hold its size. -/
theorem AttachmentRow.exists_of_iff {a : Attachment} :
    (∃ r : AttachmentRow, r.Of a) ↔ a.sizeBytes.toNat ≤ maxInt64 := by
  constructor
  · rintro ⟨r, h⟩
    exact h.cells.1
  · intro h
    exact ⟨_, if_pos h⟩

namespace SizeSide

/-- The store misses a size below a bound: the size is the largest that the column can hold, and
stands for the bound as well. -/
def Misses (side : SizeSide) (size bytes : UInt64) : Prop :=
  side = .smaller ∧ size.toNat = maxInt64 ∧ maxInt64 < bytes.toNat

variable {side : SizeSide} {size bytes : UInt64}

/-- A stored size compares with a bound as the size itself, unless it is missed. -/
theorem holds_stored_iff (hsize : size.toNat ≤ maxInt64) :
    side.comparison.holds ((Cell.integer size.toNat).compare (sizeParam bytes).cell) =
      side.holds size bytes ↔ ¬ side.Misses size bytes := by
  have hcompare : (Cell.integer size.toNat).compare (sizeParam bytes).cell =
      compare (size.toNat : Int) (min bytes.toNat maxInt64 : Nat) := rfl
  rw [hcompare, Bool.eq_iff_iff]
  cases side with
  | larger =>
    simp only [comparison, Comparison.holds, holds, Misses, decide_eq_true_eq, Int.compare_eq_gt,
      UInt64.lt_iff_toNat_lt, reduceCtorEq, false_and, not_false_iff, iff_true]
    omega
  | smaller =>
    simp only [comparison, Comparison.holds, holds, Misses, decide_eq_true_eq, Int.compare_eq_lt,
      UInt64.lt_iff_toNat_lt, true_and]
    omega

end SizeSide

/-! ## Attachments -/

theorem any_congr_of_mem {α : Type} {p q : α → Bool} {l : List α} (h : ∀ x ∈ l, p x = q x) :
    l.any p = l.any q := by
  rw [Bool.eq_iff_iff, List.any_eq_true, List.any_eq_true]
  exact exists_congr fun x => and_congr_right fun hx => by rw [h x hx]

section Attachments

variable {a : Attachment}

/-- An attachment of the largest size that can be stored. -/
def largestAttachment : Attachment := ⟨"a-1", "m-1", "disk.img", none, 9223372036854775807⟩

/-- The row of the largest attachment. -/
def largestRow : AttachmentRow
  | .id => .text "a-1"
  | .messageId => .text "m-1"
  | .filename => .text "disk.img"
  | .contentType => .null
  | .sizeBytes => .integer 9223372036854775807

theorem largestRow_of : largestRow.Of largestAttachment := by
  unfold AttachmentRow.Of AttachmentRow.ofAttachment
  rw [if_pos (by decide)]
  exact congrArg Except.ok (funext fun c => by cases c <;> rfl)

/-- The condition for a bound compares the size of an attachment that stands alone. -/
theorem Predicate.truth_attachmentSized {r : AttachmentRow} (hof : r.Of a) (message : MessageRow)
    (side : SizeSide) (bytes : UInt64) :
    (attachmentSized side bytes).condition.truth message [r] = .ok (some (side.comparison.holds
      ((Cell.integer a.sizeBytes.toNat).compare (sizeParam bytes).cell))) := by
  obtain ⟨-, -, -, -, -, hcell⟩ := hof.cells
  have hbody : (Body.one (.one
      (.compare (.attachment .sizeBytes) side.comparison (sizeParam bytes)))).truth
        { message, attachment := r } = .ok (some (side.comparison.holds
          ((Cell.integer a.sizeBytes.toNat).compare (sizeParam bytes).cell))) := by
    simp only [Body.truth, Choice.truth, Test.truth, Operand.cell, hcell]
  refine Condition.truth_plain ?_
  rw [Scope.truth]
  simp only [anyTrue, hbody]
  cases side.comparison.holds _ <;> rfl

/-- **Bounds of sizes.** An attachment of a size that the store accepts has a row, and the condition
for a bound is decided for it. The answer is the one in memory, unless the attachment is as large as
can be stored and the bound that it lies below is larger. -/
theorem sizes_compared_iff (hsize : a.sizeBytes.toNat ≤ maxInt64) (message : MessageRow)
    (side : SizeSide) (bytes : UInt64) : ∃ r : AttachmentRow, r.Of a ∧
      ∃ b, (Predicate.attachmentSized side bytes).condition.truth message [r] = .ok (some b) ∧
        (b = side.holds a.sizeBytes bytes ↔
          ¬ (side = .smaller ∧ a.sizeBytes.toNat = maxInt64 ∧ maxInt64 < bytes.toNat)) := by
  obtain ⟨r, hof⟩ := AttachmentRow.exists_of_iff.mpr hsize
  exact ⟨r, hof, _, Predicate.truth_attachmentSized hof message side bytes,
    SizeSide.holds_stored_iff hsize⟩

theorem sizes_compared_largest : largestAttachment.sizeBytes.toNat ≤ maxInt64 ∧
    ∃ r : AttachmentRow, r.Of largestAttachment ∧
      ∃ b, (Predicate.attachmentSized .larger 18446744073709551615).condition.truth
          (fun _ => .null) [r] = .ok (some b) ∧
        (b = SizeSide.larger.holds largestAttachment.sizeBytes 18446744073709551615 ↔
          ¬ (SizeSide.larger = .smaller ∧ largestAttachment.sizeBytes.toNat = maxInt64 ∧
            maxInt64 < (18446744073709551615 : UInt64).toNat)) := by
  have hsize : largestAttachment.sizeBytes.toNat ≤ maxInt64 := by decide
  exact ⟨hsize, sizes_compared_iff hsize (fun _ => .null) .larger 18446744073709551615⟩

/-- The largest attachment is not found below the next larger bound. -/
theorem largest_size_missed : largestRow.Of largestAttachment ∧
    (Predicate.attachmentSized .smaller 9223372036854775808).condition.truth
      (fun _ => .null) [largestRow] = .ok (some false) ∧
    SizeSide.smaller.holds largestAttachment.sizeBytes 9223372036854775808 = true :=
  ⟨largestRow_of, rfl, rfl⟩

end Attachments

end MailSearch
