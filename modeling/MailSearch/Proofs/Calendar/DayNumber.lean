import MailSearch.Calendar.Timestamp

/-!
# Day numbers

* `Date.ofDayNumber?_dayNumber`: the day of a date's number is the date.
* `Date.dayNumber_lt`: a date earlier by year, month and day has the smaller number.
* `Timestamp.rank_lt` and `Timestamp.rank_inj`: a point in time earlier by date, second and
  nanosecond has the smaller rank, and equal ranks are of equal points.
-/

namespace MailSearch.Calendar

/-! ## Months -/

/-- The days of a year. -/
def daysInYear (year : Int) : Nat := if isLeapYear year then 366 else 365

theorem daysBeforeMonth_succ (year : Int) {month : Nat} (h : 1 ≤ month) :
    daysBeforeMonth year (month + 1) = daysBeforeMonth year month + daysInMonth year month := by
  rw [daysBeforeMonth]
  omega

theorem daysBeforeMonth_mono (year : Int) {i j : Nat} (hi : 1 ≤ i) (h : i ≤ j) :
    daysBeforeMonth year i ≤ daysBeforeMonth year j := by
  obtain ⟨k, rfl⟩ := Nat.exists_eq_add_of_le h
  clear h
  induction k with
  | zero => exact Nat.le_refl _
  | succ k ih =>
    rw [← Nat.add_assoc, daysBeforeMonth_succ year (by omega)]
    omega

theorem daysBeforeMonth_thirteen (year : Int) : daysBeforeMonth year 13 = daysInYear year := by
  simp only [daysBeforeMonth, daysInMonth, daysInYear]
  split <;> rfl

/-- The months that begin on or before a day of a month are the months up to it. -/
theorem monthOfDay_eq {year : Int} {month n : Nat} (h1 : 1 ≤ month) (h12 : month ≤ 12)
    (hlo : daysBeforeMonth year month ≤ n) (hhi : n < daysBeforeMonth year (month + 1)) :
    monthOfDay year n = month := by
  have hiff : ∀ i ∈ List.range' 1 12,
      decide (daysBeforeMonth year i ≤ n) = decide (i ≤ month) := by
    intro i hi
    have hi1 : 1 ≤ i := (List.mem_range'_1.mp hi).1
    rw [decide_eq_decide]
    constructor
    · intro hle
      apply Nat.not_lt.mp
      intro hlt
      have := daysBeforeMonth_mono year (i := month + 1) (by omega) hlt
      omega
    · intro hle
      exact Nat.le_trans (daysBeforeMonth_mono year hi1 hle) hlo
  unfold monthOfDay
  rw [List.filter_congr hiff]
  have hall : ∀ m ∈ List.range' 1 12,
      ((List.range' 1 12).filter fun i => decide (i ≤ m)).length = m := by decide
  exact hall month (List.mem_range'_1.mpr ⟨h1, by omega⟩)

/-! ## Years -/

theorem daysBeforeYear_succ (year : Int) :
    daysBeforeYear (year + 1) = daysBeforeYear year + daysInYear year := by
  unfold daysBeforeYear daysInYear isLeapYear
  split
  · rename_i h
    simp only [Bool.and_eq_true, Bool.or_eq_true, beq_iff_eq, bne_iff_ne] at h
    simp only
    omega
  · rename_i h
    simp only [Bool.and_eq_true, Bool.or_eq_true, beq_iff_eq, bne_iff_ne, not_and, not_or] at h
    simp only
    omega

theorem daysBeforeYear_mono {x y : Int} (h : x ≤ y) : daysBeforeYear x ≤ daysBeforeYear y := by
  unfold daysBeforeYear
  simp only
  omega

theorem ediv_eq {n k q r : Int} (hr0 : 0 ≤ r) (hr : r < k) (h : r + k * q = n) : n / k = q :=
  ((Int.ediv_emod_unique (by omega)).mpr ⟨h, hr0, hr⟩).1

/-- The whole periods of 400, 100 and 4 years before a year, and the years since. -/
theorem exists_periods (year : Int) : ∃ a b c d : Int, 0 ≤ b ∧ b ≤ 3 ∧ 0 ≤ c ∧ c ≤ 24 ∧
    0 ≤ d ∧ d ≤ 3 ∧ year = 400 * a + 100 * b + 4 * c + d + 1 :=
  ⟨(year - 1) / 400, (year - 1) % 400 / 100, (year - 1) % 100 / 4, (year - 1) % 4,
    by omega, by omega, by omega, by omega, by omega, by omega, by omega⟩

theorem daysBeforeYear_periods {a b c d : Int} (hb0 : 0 ≤ b) (hb : b ≤ 3) (hc0 : 0 ≤ c)
    (hc : c ≤ 24) (hd0 : 0 ≤ d) (hd : d ≤ 3) :
    daysBeforeYear (400 * a + 100 * b + 4 * c + d + 1) =
      146097 * a + 36524 * b + 1461 * c + 365 * d := by
  unfold daysBeforeYear
  simp only
  rw [ediv_eq (q := 100 * a + 25 * b + c) hd0 (by omega) (by omega),
    ediv_eq (q := 4 * a + b) (r := 4 * c + d) (by omega) (by omega) (by omega),
    ediv_eq (q := a) (r := 100 * b + 4 * c + d) (by omega) (by omega) (by omega)]
  omega

/-- Only the last year of four is a leap year, and of the last of a hundred only the fourth. -/
theorem day_le_periods {a b c d : Int} (hb0 : 0 ≤ b) (hb : b ≤ 3) (hc0 : 0 ≤ c) (hc : c ≤ 24)
    (hd0 : 0 ≤ d) (hd : d ≤ 3) {n : Nat}
    (h : n < daysInYear (400 * a + 100 * b + 4 * c + d + 1)) :
    (n : Int) ≤ 364 ∨ ((n : Int) = 365 ∧ d = 3 ∧ (c ≤ 23 ∨ b = 3)) := by
  unfold daysInYear isLeapYear at h
  split at h
  · rename_i hleap
    simp only [Bool.and_eq_true, Bool.or_eq_true, beq_iff_eq, bne_iff_ne] at hleap
    omega
  · omega

/-- The year of a day in it. -/
theorem yearOfDay_eq {year : Int} {n : Nat} (h : n < daysInYear year) :
    yearOfDay (daysBeforeYear year + n) = year := by
  obtain ⟨a, b, c, d, hb0, hb, hc0, hc, hd0, hd, rfl⟩ := exists_periods year
  have hn := day_le_periods hb0 hb hc0 hc hd0 hd h
  rw [daysBeforeYear_periods hb0 hb hc0 hc hd0 hd]
  clear h
  obtain ⟨h400, hr400⟩ := (Int.ediv_emod_unique (b := 146097)
    (a := 146097 * a + 36524 * b + 1461 * c + 365 * d + n) (q := a)
    (r := 36524 * b + 1461 * c + 365 * d + n) (by decide)).mpr
    ⟨by omega, by omega, by omega⟩
  have h100 : min ((36524 * b + 1461 * c + 365 * d + n) / 36524) 3 = b := by omega
  have h4 : (1461 * c + 365 * d + n) / 1461 = c :=
    ediv_eq (r := 365 * d + n) (by omega) (by omega) (by omega)
  have h1 : min ((365 * d + n) / 365) 3 = d := by omega
  unfold yearOfDay
  simp only
  rw [h400, hr400, h100,
    show 36524 * b + 1461 * c + 365 * d + n - b * 36524 = 1461 * c + 365 * d + n by omega, h4,
    show 1461 * c + 365 * d + n - c * 1461 = 365 * d + n by omega, h1]

/-! ## Dates -/

namespace Date

/-- The days of its year before a date. -/
def dayOfYear (d : Date) : Nat := daysBeforeMonth d.year d.month + (d.day - 1)

theorem dayNumber_eq (d : Date) : d.dayNumber = daysBeforeYear d.year + d.dayOfYear := by
  unfold dayNumber dayOfYear
  omega

theorem dayOfYear_lt_succ (d : Date) : d.dayOfYear < daysBeforeMonth d.year (d.month + 1) := by
  obtain ⟨-, -, hm1, -, hd1, hd⟩ := d.isDay
  rw [daysBeforeMonth_succ d.year hm1]
  unfold dayOfYear
  omega

theorem dayOfYear_lt (d : Date) : d.dayOfYear < daysInYear d.year := by
  obtain ⟨-, -, hm1, hm12, -, -⟩ := d.isDay
  rw [← daysBeforeMonth_thirteen]
  exact Nat.lt_of_lt_of_le d.dayOfYear_lt_succ (daysBeforeMonth_mono d.year (by omega) (by omega))

/-- The day of a date's number is the date. -/
theorem ofDayNumber?_dayNumber (d : Date) : ofDayNumber? d.dayNumber = some d := by
  obtain ⟨-, -, hm1, hm12, hd1, hd⟩ := d.isDay
  have hyear : yearOfDay d.dayNumber = d.year := by
    rw [dayNumber_eq]
    exact yearOfDay_eq d.dayOfYear_lt
  have hday : (d.dayNumber - daysBeforeYear d.year).toNat = d.dayOfYear := by
    rw [dayNumber_eq]
    omega
  have hmonth : monthOfDay d.year d.dayOfYear = d.month :=
    monthOfDay_eq hm1 hm12 (Nat.le_add_right _ _) d.dayOfYear_lt_succ
  unfold ofDayNumber?
  simp only [hyear, hday, hmonth]
  rw [ofYmd?_eq_some_iff]
  refine ⟨rfl, rfl, ?_⟩
  unfold dayOfYear
  omega

theorem addDays?_zero (d : Date) : d.addDays? 0 = some d := by
  rw [addDays?, Int.add_zero, ofDayNumber?_dayNumber]

theorem dayNumber_inj {a b : Date} (h : a.dayNumber = b.dayNumber) : a = b := by
  have := ofDayNumber?_dayNumber a
  rw [h, ofDayNumber?_dayNumber] at this
  exact (Option.some.inj this).symm

/-- Earlier by year, then month, then day. -/
def Before (a b : Date) : Prop :=
  a.year < b.year ∨ (a.year = b.year ∧
    (a.month < b.month ∨ (a.month = b.month ∧ a.day < b.day)))

theorem before_trichotomy (a b : Date) : a.Before b ∨ a = b ∨ b.Before a := by
  unfold Before
  have : a = b ↔ a.year = b.year ∧ a.month = b.month ∧ a.day = b.day := by
    cases a
    cases b
    simp
  rw [this]
  omega

/-- An earlier date has the smaller number. -/
theorem dayNumber_lt {a b : Date} (h : a.Before b) : a.dayNumber < b.dayNumber := by
  rw [dayNumber_eq, dayNumber_eq]
  have hday := a.dayOfYear_lt
  rcases h with hyear | ⟨hyear, hmonth | ⟨hmonth, hlt⟩⟩
  · have hmono := daysBeforeYear_mono (x := a.year + 1) (y := b.year) (by omega)
    rw [daysBeforeYear_succ] at hmono
    omega
  · have h1 := a.dayOfYear_lt_succ
    have h2 := daysBeforeMonth_mono a.year (i := a.month + 1) (by omega) hmonth
    rw [hyear] at h1 h2 ⊢
    have h3 : daysBeforeMonth b.year b.month ≤ b.dayOfYear := Nat.le_add_right _ _
    omega
  · obtain ⟨-, -, -, -, h1, -⟩ := a.isDay
    unfold dayOfYear
    rw [hyear, hmonth]
    omega

end Date

/-! ## Points in time -/

namespace Timestamp

/-- Earlier by date, then second, then nanosecond. -/
def Before (a b : Timestamp) : Prop :=
  a.date.Before b.date ∨ (a.date = b.date ∧ (a.clock.second < b.clock.second ∨
    (a.clock.second = b.clock.second ∧ a.clock.nano < b.clock.nano)))

theorem before_trichotomy (a b : Timestamp) : a.Before b ∨ a = b ∨ b.Before a := by
  unfold Before
  rcases Date.before_trichotomy a.date b.date with h | h | h
  · exact .inl (.inl h)
  · have : a = b ↔ a.clock.second = b.clock.second ∧ a.clock.nano = b.clock.nano := by
      obtain ⟨ad, as, an⟩ := a
      obtain ⟨bd, bs, bn⟩ := b
      simp only at h
      simp [h]
    rw [this]
    simp only [h, true_and]
    omega
  · exact .inr (.inr (.inl h))

/-- An earlier point in time has the smaller rank. -/
theorem rank_lt {a b : Timestamp} (h : a.Before b) : a.rank < b.rank := by
  obtain ⟨has, han⟩ := a.clock.isClock
  obtain ⟨hbs, hbn⟩ := b.clock.isClock
  simp only [rank, secondsPerDay, nanosPerSecond] at *
  rcases h with h | ⟨hdate, h⟩
  · have := Date.dayNumber_lt h
    omega
  · rw [hdate]
    omega

theorem rank_inj {a b : Timestamp} (h : a.rank = b.rank) : a = b := by
  rcases before_trichotomy a b with hab | hab | hba
  · have := rank_lt hab
    omega
  · exact hab
  · have := rank_lt hba
    omega

end Timestamp

end MailSearch.Calendar
