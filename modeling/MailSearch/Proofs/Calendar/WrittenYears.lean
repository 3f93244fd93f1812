import MailSearch.Proofs.Calendar.StoredOrder

/-!
# The order of stored times of all years

A year outside 0000 to 9999 is stored with a sign, and signs come before digits. So the order of
stored times is the order of the times in some years and not in others.

* `filledUp`: the digits of a year, read as if there were always six.
* `WrittenInOrder`: for which two years the earlier one is written first; `YearsInOrder`: in
  whichever order the years are given.
* `stored_lt_iff_written`: of two times, the earlier one has the smaller text exactly if their
  years are written in order.
* `stored_order_iff`: so for two times the order of the texts agrees with the order of the times
  exactly if it does for their years, and the regular times that are written like them come in the
  same order as they.
-/

namespace MailSearch.Calendar

open MailSearch.Text

/-! ## Digits of years -/

/-- The number of a year's digits, of which there are at least four and at most six, when zeros
fill them up to six. -/
def filledUp (n : Nat) : Nat :=
  if n < 10000 then n * 100 else if n < 100000 then n * 10 else n

/-- The number of a year's digits. -/
theorem length_padded_four {n : Nat} (h : n < 1000000) : (padded 4 n).length =
    if n < 10000 then 4 else if n < 100000 then 5 else 6 := by
  have hlength (k : Nat) (hk : 0 < k) : (decimal n).length ≤ k ↔ n < 10 ^ k :=
    Nat.length_toDigits_le_iff (by decide) hk
  have h4 := hlength 4 (by decide)
  have h5 := hlength 5 (by decide)
  have h6 := hlength 6 (by decide)
  simp only [padded, List.length_append, List.length_replicate]
  split
  · omega
  · split <;> omega

variable {m n : Nat}

/-- Numbers of one length are compared as they are, and else the smaller one filled up. -/
theorem length_padded_four_cases (hmn : m < n) (hn : n < 1000000) :
    ((padded 4 m).length = (padded 4 n).length ∧ filledUp m < filledUp n) ∨
    ((padded 4 m).length < (padded 4 n).length ∧
      (filledUp m ≤ filledUp n ↔
        m * 10 ^ ((padded 4 n).length - (padded 4 m).length) ≤ n)) := by
  rw [length_padded_four hn, length_padded_four (Nat.lt_trans hmn hn)]
  unfold filledUp
  split <;> split <;> (try split) <;> (try split) <;> simp <;> omega

/-- Of two years with one sign, the digits of the smaller number come first when they do so filled
up. -/
theorem year_lt (hmn : m < n) (hn : n < 1000000) (h : filledUp m ≤ filledUp n)
    (us vs : List Char) : padded 4 m ++ '-' :: us < padded 4 n ++ vs := by
  have hdm : ∀ c ∈ padded 4 m, c.isDigit = true := fun _ => isDigit_of_mem_padded
  have hdn : ∀ c ∈ padded 4 n, c.isDigit = true := fun _ => isDigit_of_mem_padded
  rcases length_padded_four_cases hmn hn with ⟨hlen, -⟩ | ⟨hlen, hiff⟩
  · refine append_lt_append hlen (lt_of_digitsValue_lt hdm hdn hlen ?_) _ _
    rwa [digitsValue_padded, digitsValue_padded]
  · refine shorter_lt hdm hdn hlen ?_ (fun _ => minus_lt_digit) us vs
    rw [digitsValue_padded, digitsValue_padded]
    exact hiff.mp h

/-- Otherwise those of the larger number do. -/
theorem year_gt (hmn : m < n) (hn : n < 1000000) (h : filledUp n < filledUp m)
    (us vs : List Char) : padded 4 n ++ vs < padded 4 m ++ us := by
  have hdm : ∀ c ∈ padded 4 m, c.isDigit = true := fun _ => isDigit_of_mem_padded
  have hdn : ∀ c ∈ padded 4 n, c.isDigit = true := fun _ => isDigit_of_mem_padded
  rcases length_padded_four_cases hmn hn with ⟨-, hlt⟩ | ⟨hlen, hiff⟩
  · omega
  · refine longer_lt hdm hdn hlen ?_ us vs
    rw [digitsValue_padded, digitsValue_padded]
    omega

/-! ## Years in order -/

/-- For years of which the first is the earlier one: it is written first. -/
def WrittenInOrder (y z : Int) : Prop :=
  (0 ≤ z ∧ z ≤ 9999) ∨ (9999 < y ∧ filledUp y.natAbs ≤ filledUp z.natAbs) ∨
    (z < 0 ∧ filledUp y.natAbs < filledUp z.natAbs)

instance (y z : Int) : Decidable (WrittenInOrder y z) := inferInstanceAs (Decidable (_ ∨ _))

/-- The years are equal, or the earlier one is written first. -/
def YearsInOrder (y z : Int) : Prop :=
  y = z ∨ (y < z ∧ WrittenInOrder y z) ∨ (z < y ∧ WrittenInOrder z y)

theorem yearsInOrder_comm {y z : Int} : YearsInOrder y z ↔ YearsInOrder z y := by
  unfold YearsInOrder
  rw [eq_comm, or_comm (a := y < z ∧ _)]

theorem yearsInOrder_iff_of_lt {y z : Int} (h : y < z) :
    YearsInOrder y z ↔ WrittenInOrder y z := by
  constructor
  · rintro (rfl | ⟨-, hwritten⟩ | ⟨hgt, -⟩)
    · exact absurd h (Int.lt_irrefl _)
    · exact hwritten
    · exact absurd h (Int.lt_asymm hgt)
  · exact fun hwritten => .inr (.inl ⟨h, hwritten⟩)

theorem yearText_of_late {y : Int} (h : 9999 < y) : yearText y = '+' :: padded 4 y.natAbs := by
  unfold yearText
  rw [if_neg (by omega), if_neg (by omega)]

theorem Date.natAbs_year_lt (d : Date) : d.year.natAbs < 1000000 := by
  obtain ⟨hmin, hmax, -⟩ := d.isDay
  unfold minYear at hmin
  unfold maxYear at hmax
  omega

/-- A plus comes before a minus and before every digit. -/
theorem exists_yearText_of_not_late {y : Int} (h : ¬ 9999 < y) :
    ∃ c cs, yearText y = c :: cs ∧ '+' < c := by
  by_cases hneg : y < 0
  · exact ⟨'-', _, yearText_of_negative hneg, by decide⟩
  · obtain ⟨c, cs, hcs, hc⟩ := exists_padded (Nat.zero_lt_succ 3) y.natAbs
    refine ⟨c, cs, ?_, Char.lt_trans (by decide) (minus_lt_digit hc)⟩
    unfold yearText
    rw [if_pos (by omega), hcs]

variable {a b : Timestamp}

/-- What follows the year starts with a minus. -/
theorem exists_storedChars (t : Timestamp) :
    ∃ cs, t.storedChars = yearText t.date.year ++ '-' :: cs := by
  simp only [Timestamp.storedChars, Date.chars, List.append_assoc, List.cons_append]
  exact ⟨_, rfl⟩

theorem stored_lt_stored_iff : a.stored < b.stored ↔ a.storedChars < b.storedChars := by
  rw [String.lt_iff, Timestamp.stored, Timestamp.stored, String.toList_ofList,
    String.toList_ofList]

/-- A year that is written in order makes the earlier text. -/
theorem stored_lt_of_written (hyear : a.date.year < b.date.year)
    (h : WrittenInOrder a.date.year b.date.year) : a.stored < b.stored := by
  have han := a.date.natAbs_year_lt
  have hbn := b.date.natAbs_year_lt
  obtain ⟨us, hus⟩ := exists_storedChars a
  obtain ⟨vs, hvs⟩ := exists_storedChars b
  rcases h with hplain | ⟨hlate, hle⟩ | ⟨hneg, hlt⟩
  · by_cases ha : a.date.year < 0
    · exact stored_lt_of_negative ha hplain
    · exact stored_lt_of_year_lt ⟨by omega, by omega⟩ hplain hyear
  · rw [stored_lt_stored_iff, hus, hvs, yearText_of_late hlate, yearText_of_late (by omega)]
    exact separator_lt _ (year_lt (by omega) hbn hle us _)
  · rw [stored_lt_stored_iff, hus, hvs, yearText_of_negative (by omega), yearText_of_negative hneg]
    exact separator_lt _ (year_gt (by omega) han hlt _ _)

/-- One that is not makes the later text. -/
theorem stored_gt_of_not_written (hyear : a.date.year < b.date.year)
    (h : ¬ WrittenInOrder a.date.year b.date.year) : b.stored < a.stored := by
  have han := a.date.natAbs_year_lt
  have hbn := b.date.natAbs_year_lt
  obtain ⟨us, hus⟩ := exists_storedChars a
  obtain ⟨vs, hvs⟩ := exists_storedChars b
  unfold WrittenInOrder at h
  rw [stored_lt_stored_iff, hus, hvs]
  by_cases hb : b.date.year < 0
  · rw [yearText_of_negative hb, yearText_of_negative (by omega)]
    exact separator_lt _ (year_lt (by omega) han (by omega) _ _)
  have hlate : 9999 < b.date.year := by omega
  rw [yearText_of_late hlate]
  by_cases halate : 9999 < a.date.year
  · rw [yearText_of_late halate]
    exact separator_lt _ (year_gt (by omega) hbn (by omega) _ _)
  · obtain ⟨c, cs, hcs, hc⟩ := exists_yearText_of_not_late halate
    rw [hcs, List.cons_append, List.cons_append, List.cons_lt_cons_iff]
    exact .inl hc

/-- Of two times in different years, the earlier one has the smaller text exactly if its year is
written first. -/
theorem stored_lt_iff_written (hyear : a.date.year < b.date.year) :
    a.stored < b.stored ↔ WrittenInOrder a.date.year b.date.year := by
  refine ⟨fun hlt => Decidable.byContradiction fun hnot => ?_, stored_lt_of_written hyear⟩
  exact String.lt_asymm hlt (stored_gt_of_not_written hyear hnot)

/-- The later one has the smaller text otherwise. -/
theorem stored_gt_iff_not_written (hyear : a.date.year < b.date.year) :
    b.stored < a.stored ↔ ¬ WrittenInOrder a.date.year b.date.year := by
  refine ⟨fun hgt hwritten => ?_, stored_gt_of_not_written hyear⟩
  exact String.lt_asymm hgt (stored_lt_of_written hyear hwritten)

theorem before_of_year_lt (h : a.date.year < b.date.year) : a.Before b := .inl (.inl h)

/-- Times in different years come in the same order as the regular times that are written like
them. -/
theorem rank_carried_lt_iff_of_year_ne (hyear : a.date.year ≠ b.date.year) :
    a.carried.rank < b.carried.rank ↔ a.rank < b.rank := by
  rcases Int.lt_or_gt_of_ne hyear with hlt | hgt
  · exact iff_of_true (Timestamp.rank_lt (before_of_year_lt hlt))
      (Timestamp.rank_lt (before_of_year_lt hlt))
  · exact iff_of_false (Int.lt_asymm (Timestamp.rank_lt (before_of_year_lt hgt)))
      (Int.lt_asymm (Timestamp.rank_lt (before_of_year_lt hgt)))

theorem stored_lt_iff_of_same_year_of_isRegular (ha : a.IsRegular) (hb : b.IsRegular)
    (hyear : a.date.year = b.date.year) : a.stored < b.stored ↔ a.rank < b.rank := by
  rcases Timestamp.before_trichotomy a b with hab | rfl | hba
  · exact iff_of_true (stored_lt_of_same_year ha hb hyear hab) (Timestamp.rank_lt hab)
  · exact iff_of_false (String.lt_irrefl _) (Int.lt_irrefl _)
  · have hlt := stored_lt_of_same_year hb ha hyear.symm hba
    exact iff_of_false (String.lt_asymm hlt) (Int.lt_asymm (Timestamp.rank_lt hba))

/-- In one year, the order of the texts is that of the regular times that are written so. -/
theorem stored_lt_iff_of_same_year (hyear : a.date.year = b.date.year) :
    a.stored < b.stored ↔ a.carried.rank < b.carried.rank := by
  rw [← a.stored_carried, ← b.stored_carried]
  exact stored_lt_iff_of_same_year_of_isRegular a.isRegular_carried b.isRegular_carried hyear

/-- **When the order of the texts is that of the times.** For two times of any years, the order of
their stored forms agrees with their own order exactly if it does so for their years, and the
regular times that are written like them come in the same order as they. -/
theorem stored_order_iff (a b : Timestamp) :
    (a.rank < b.rank ↔ a.stored < b.stored) ↔
      YearsInOrder a.date.year b.date.year ∧
        (a.rank < b.rank ↔ a.carried.rank < b.carried.rank) := by
  rcases Int.lt_trichotomy a.date.year b.date.year with hlt | heq | hgt
  · have hrank := Timestamp.rank_lt (before_of_year_lt hlt)
    rw [and_iff_left (rank_carried_lt_iff_of_year_ne (by omega)).symm,
      yearsInOrder_iff_of_lt hlt, ← stored_lt_iff_written hlt]
    exact iff_true_left hrank
  · rw [stored_lt_iff_of_same_year heq]
    exact (and_iff_right (.inl heq)).symm
  · have hrank := Int.lt_asymm (Timestamp.rank_lt (before_of_year_lt hgt))
    rw [and_iff_left (rank_carried_lt_iff_of_year_ne (by omega)).symm, yearsInOrder_comm,
      yearsInOrder_iff_of_lt hgt, iff_false_left hrank, stored_gt_iff_not_written hgt,
      Decidable.not_not]

/-- The last day with a plain year comes before the first day of the year 10000, but its text comes
after. -/
theorem year_10000_stored_first :
    (Timestamp.startOfDay ⟨9999, 12, 31, by decide⟩).rank <
        (Timestamp.startOfDay ⟨10000, 1, 1, by decide⟩).rank ∧
      ¬ (Timestamp.startOfDay ⟨9999, 12, 31, by decide⟩).stored <
        (Timestamp.startOfDay ⟨10000, 1, 1, by decide⟩).stored := by
  refine ⟨by decide, ?_⟩
  rw [stored_lt_iff_written (by decide)]
  decide

end MailSearch.Calendar
