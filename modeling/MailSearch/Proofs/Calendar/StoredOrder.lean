import MailSearch.Proofs.Calendar.ReadBack
import MailSearch.Proofs.Store.Cell

/-!
# The order of stored times

The store compares times as texts. For regular times, with a plain year on one side and a year up to
9999 on the other, this is the order of the times:

* `stored_lt_of_before_plain`, `stored_lt_of_negative`: an earlier time has the smaller text.
* `compare_stored`: so stored times compare as their ranks do.
-/

namespace MailSearch.Calendar

open MailSearch.Text

/-! ## Fields of digits -/

/-- A smaller field, or an equal one with the smaller rest, makes the smaller text. -/
theorem field_lt {width m n : Nat} {us vs : List Char} (hw : 0 < width) (hm : m < 10 ^ width)
    (hn : n < 10 ^ width) (h : m < n ∨ (m = n ∧ us < vs)) :
    padded width m ++ us < padded width n ++ vs := by
  rcases h with h | ⟨rfl, h⟩
  · have hlen : (padded width m).length = (padded width n).length := by
      rw [length_padded hw hm, length_padded hw hn]
    exact append_lt_append hlen (padded_lt_padded hw h hn) us vs
  · exact append_lt_append_left _ h

theorem separator_lt (c : Char) {us vs : List Char} (h : us < vs) : c :: us < c :: vs :=
  append_lt_append_left [c] h

section Clocks

variable {a b : Clock} (ha : a.IsRegular) (hb : b.IsRegular)

include ha hb

/-- A later time of day is later by hour, minute, written second and fraction. -/
theorem Clock.written_lt (h : a.second < b.second ∨ (a.second = b.second ∧ a.nano < b.nano)) :
    a.hour < b.hour ∨ (a.hour = b.hour ∧ (a.minute < b.minute ∨ (a.minute = b.minute ∧
      (a.writtenSecond < b.writtenSecond ∨
        (a.writtenSecond = b.writtenSecond ∧ a.fraction < b.fraction))))) := by
  have ha := written_cases ha
  have hb := written_cases hb
  have haf := a.fraction_lt
  have hbf := b.fraction_lt
  have has := a.second_eq
  have hbs := b.second_eq
  have ham := a.minute_lt
  have hbm := b.minute_lt
  simp only [nanosPerSecond] at ha hb
  omega

theorem Clock.chars_lt {us vs : List Char}
    (h : a.second < b.second ∨ (a.second = b.second ∧ a.nano < b.nano)) :
    a.chars ++ '.' :: (padded 9 a.fraction ++ us) <
      b.chars ++ '.' :: (padded 9 b.fraction ++ vs) := by
  have hah := a.hour_lt
  have hbh := b.hour_lt
  have ham := a.minute_lt
  have hbm := b.minute_lt
  have has := a.writtenSecond_le
  have hbs := b.writtenSecond_le
  simp only [chars, List.append_assoc, List.cons_append]
  refine field_lt (by decide) (by omega) (by omega) ((written_lt ha hb h).imp_right ?_)
  refine And.imp_right fun h => separator_lt _ ?_
  refine field_lt (by decide) (by omega) (by omega) (h.imp_right ?_)
  refine And.imp_right fun h => separator_lt _ ?_
  refine field_lt (by decide) (by omega) (by omega) (h.imp_right ?_)
  refine And.imp_right fun h => separator_lt _ ?_
  exact field_lt (by decide) a.fraction_lt b.fraction_lt (.inl h)

end Clocks

theorem Timestamp.Before.year_le {a b : Timestamp} (h : a.Before b) :
    a.date.year ≤ b.date.year := by
  rcases h with (h | ⟨h, -⟩) | ⟨h, -⟩
  · omega
  · omega
  · exact Int.le_of_eq (congrArg Date.year h)

variable {a b : Timestamp}

/-- Of two regular times in one year, the earlier has the smaller text. -/
theorem stored_lt_of_same_year (ha : a.IsRegular) (hb : b.IsRegular)
    (hyear : a.date.year = b.date.year) (h : a.Before b) : a.stored < b.stored := by
  have ham := a.date.month_lt
  have hbm := b.date.month_lt
  have had := a.date.day_le
  have hbd := b.date.day_le
  rw [String.lt_iff]
  simp only [Timestamp.stored, String.toList_ofList, Timestamp.storedChars, Date.chars, hyear,
    List.append_assoc, List.cons_append]
  refine append_lt_append_left _ (separator_lt _ ?_)
  rcases h with (h | ⟨-, h⟩) | ⟨hdate, h⟩
  · omega
  · refine field_lt (by decide) (by omega) (by omega) (h.imp_right ?_)
    refine And.imp_right fun h => separator_lt _ ?_
    exact field_lt (by decide) (by omega) (by omega) (.inl h)
  · rw [hdate]
    refine field_lt (by decide) (by omega) (by omega) (.inr ⟨rfl, separator_lt _ ?_⟩)
    refine field_lt (by decide) (by omega) (by omega) (.inr ⟨rfl, separator_lt _ ?_⟩)
    exact Clock.chars_lt ha hb h

/-- Of two plain years, the earlier makes the smaller text. -/
theorem stored_lt_of_year_lt (ha : a.HasPlainYear) (hb : b.HasPlainYear)
    (h : a.date.year < b.date.year) : a.stored < b.stored := by
  obtain ⟨ha0, ha9⟩ := ha
  obtain ⟨hb0, hb9⟩ := hb
  rw [String.lt_iff]
  simp only [Timestamp.stored, String.toList_ofList, Timestamp.storedChars, Date.chars,
    yearText_of_plain ⟨ha0, ha9⟩, yearText_of_plain ⟨hb0, hb9⟩, List.append_assoc]
  exact field_lt (by decide) (by omega) (by omega) (.inl (by omega))

/-- Of two regular times with plain years, the earlier has the smaller text. -/
theorem stored_lt_of_before_plain (ha : a.HasPlainYear) (hb : b.HasPlainYear)
    (har : a.IsRegular) (hbr : b.IsRegular) (h : a.Before b) : a.stored < b.stored := by
  rcases h.year_le.lt_or_eq with hlt | heq
  · exact stored_lt_of_year_lt ha hb hlt
  · exact stored_lt_of_same_year har hbr heq h

theorem minus_lt_digit {d : Char} (h : d.isDigit = true) : '-' < d := by
  simp only [Char.isDigit, Bool.and_eq_true, decide_eq_true_eq, UInt32.le_iff_toNat_le] at h
  rw [Char.lt_def, UInt32.lt_iff_toNat_lt]
  exact Nat.lt_of_lt_of_le (by decide) h.1

theorem yearText_of_negative {y : Int} (h : y < 0) : yearText y = '-' :: padded 4 y.natAbs := by
  unfold yearText
  rw [if_neg (by omega), if_pos h]

/-- The text of a time before the year 0000 starts with a minus, which comes before every digit. -/
theorem stored_lt_of_negative (ha : a.date.year < 0) (hb : b.HasPlainYear) :
    a.stored < b.stored := by
  obtain ⟨c, cs, hcs, hc⟩ := exists_padded (Nat.zero_lt_succ 3) b.date.year.natAbs
  rw [String.lt_iff]
  simp only [Timestamp.stored, String.toList_ofList, Timestamp.storedChars, Date.chars,
    yearText_of_negative ha, yearText_of_plain hb, hcs, List.cons_append, List.cons_lt_cons_iff]
  exact .inl (minus_lt_digit hc)

/-! ## Comparison in the store -/

/-- A text in the store compares with a bound as the times do. -/
theorem compare_stored (ha : a.HasPlainYear) (hb : b.date.year ≤ 9999) (har : a.IsRegular)
    (hbr : b.IsRegular) :
    (Cell.text a.stored).compare (.text b.stored) = compare a.rank b.rank := by
  rcases Timestamp.before_trichotomy a b with h | rfl | h
  · have hyear := h.year_le
    have hlt := stored_lt_of_before_plain ha ⟨by have := ha.1; omega, hb⟩ har hbr h
    rw [Cell.compare_text_of_lt hlt]
    exact (Int.compare_eq_lt.mpr (Timestamp.rank_lt h)).symm
  · rw [Cell.compare_text_self]
    exact (Int.compare_eq_eq.mpr rfl).symm
  · have hlt : b.stored < a.stored := by
      by_cases hneg : b.date.year < 0
      · exact stored_lt_of_negative hneg ha
      · exact stored_lt_of_before_plain ⟨by omega, hb⟩ ha hbr har h
    rw [Cell.compare_text_of_gt hlt]
    exact (Int.compare_eq_gt.mpr (Timestamp.rank_lt h)).symm

end MailSearch.Calendar
