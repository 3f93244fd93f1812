import Mathlib.Data.Int.Init
import MailSearch.Proofs.Calendar.DayNumber

/-!
# Steps on the calendar

What a step back on the calendar leads to, by the calendar's own rules and without counting.

* `Date.IsNext`: the day after a day. `Date.dayNumber_of_isNext`: its number is the next one.
* `Date.DaysLater`: so many days on, one after the other. `Date.daysLater_iff`: the difference of
  the numbers.
* `Date.IsMonthsBack`: so many months before a day, at the last day of a month that is shorter.
* `Date.subDays?_eq_some_iff`, `Date.subMonths?_eq_some_iff`: a step back succeeds exactly if the
  day that it leads to exists, and leads there.
* `Date.dayNumber_lt_add`, `Date.monthNumber_lt_add`: the calendar ends before the steps can get
  long.
-/

namespace MailSearch.Calendar

/-! ## The day of a number -/

/-- Every count of days lies in some year. -/
theorem exists_year (number : Int) :
    ∃ year, ∃ n : Nat, n < daysInYear year ∧ number = daysBeforeYear year + n := by
  have hpos : ∀ year, 0 < daysInYear year := by
    intro year
    unfold daysInYear
    split <;> decide
  induction number with
  | zero => exact ⟨1, 0, hpos 1, rfl⟩
  | succ number ih =>
    obtain ⟨year, n, hn, hnumber⟩ := ih
    by_cases hlast : n + 1 < daysInYear year
    · exact ⟨year, n + 1, hlast, by omega⟩
    · refine ⟨year + 1, 0, hpos _, ?_⟩
      rw [daysBeforeYear_succ]
      omega
  | pred number ih =>
    obtain ⟨year, n, hn, hnumber⟩ := ih
    by_cases hfirst : 0 < n
    · exact ⟨year, n - 1, by omega, by omega⟩
    · have hpast := daysBeforeYear_succ (year - 1)
      rw [Int.sub_add_cancel] at hpast
      have := hpos (year - 1)
      exact ⟨year - 1, daysInYear (year - 1) - 1, by omega, by omega⟩

/-- Every day of a year lies in one of its months. -/
theorem exists_month {year : Int} {n : Nat} (h : n < daysInYear year) :
    ∃ month, 1 ≤ month ∧ month ≤ 12 ∧ daysBeforeMonth year month ≤ n ∧
      n < daysBeforeMonth year (month + 1) := by
  have hupto : ∀ last, n < daysBeforeMonth year (last + 1) → ∃ month, 1 ≤ month ∧ month ≤ last ∧
      daysBeforeMonth year month ≤ n ∧ n < daysBeforeMonth year (month + 1) := by
    intro last
    induction last with
    | zero => exact fun hn => absurd hn (Nat.not_lt_zero n)
    | succ last ih =>
      intro hn
      by_cases hbefore : n < daysBeforeMonth year (last + 1)
      · obtain ⟨month, h1, hle, hmonth⟩ := ih hbefore
        exact ⟨month, h1, by omega, hmonth⟩
      · exact ⟨last + 1, by omega, Nat.le_refl _, by omega, hn⟩
  refine hupto 12 ?_
  rwa [daysBeforeMonth_thirteen]

namespace Date

/-- The day that is found for a number has it. -/
theorem dayNumber_of_ofDayNumber? {number : Int} {d : Date} (h : ofDayNumber? number = some d) :
    d.dayNumber = number := by
  obtain ⟨year, n, hn, rfl⟩ := exists_year number
  obtain ⟨month, h1, h12, hlo, hhi⟩ := exists_month hn
  have hday : (daysBeforeYear year + n - daysBeforeYear year).toNat = n := by omega
  unfold ofDayNumber? at h
  simp only [yearOfDay_eq hn, hday, monthOfDay_eq h1 h12 hlo hhi] at h
  obtain ⟨hyear, hmonth, hdays⟩ := ofYmd?_eq_some_iff.mp h
  unfold dayNumber
  rw [hyear, hmonth, hdays]
  omega

theorem ofDayNumber?_eq_some_iff {number : Int} {d : Date} :
    ofDayNumber? number = some d ↔ d.dayNumber = number :=
  ⟨dayNumber_of_ofDayNumber?, fun h => h ▸ ofDayNumber?_dayNumber d⟩

/-- A step back by days leads to the day whose number is so much smaller, if there is one. -/
theorem subDays?_eq_some_iff {d d' : Date} {days : Nat} :
    d.subDays? days = some d' ↔ d'.dayNumber + days = d.dayNumber := by
  rw [subDays?, addDays?, ofDayNumber?_eq_some_iff]
  omega

/-! ## Months -/

/-- The months from the first one of year 0, which counts as 1. -/
def monthNumber (d : Date) : Int := d.year * 12 + d.month

/-- The second day lies so many months before the first: at the same day of the month, or at the
last day of a month that is shorter. -/
def IsMonthsBack (d : Date) (months : Nat) (d' : Date) : Prop :=
  d'.monthNumber + months = d.monthNumber ∧ d'.day = min d.day (daysInMonth d'.year d'.month)

/-- A step back by months leads there, if the calendar has the month. -/
theorem subMonths?_eq_some_iff {d d' : Date} {months : Nat} :
    d.subMonths? months = some d' ↔ d.IsMonthsBack months d' := by
  obtain ⟨-, -, hm1, -, -, -⟩ := d.isDay
  obtain ⟨-, -, hm1', hm12', -, -⟩ := d'.isDay
  unfold subMonths? IsMonthsBack monthNumber
  simp only
  generalize hcount : d.year * 12 + ((d.month - 1 : Nat) : Int) - months = count
  rw [ofYmd?_eq_some_iff]
  constructor
  · rintro ⟨hyear, hmonth, hday⟩
    rw [hyear, hmonth]
    exact ⟨by omega, hday⟩
  · rintro ⟨hnumber, hday⟩
    have hyear : d'.year = count / 12 := by omega
    have hmonth : d'.month = (count % 12).toNat + 1 := by omega
    rw [← hyear, ← hmonth]
    exact ⟨rfl, rfl, hday⟩

/-! ## Range -/

/-- No two days are as many days apart as 32 bits can count. -/
theorem dayNumber_lt_add (a b : Date) : a.dayNumber < b.dayNumber + 4294967296 := by
  have hlast : a.dayNumber < daysBeforeYear (maxYear + 1) := by
    have hmono := daysBeforeYear_mono (x := a.year + 1) (y := maxYear + 1) (by
      have := a.isDay.2.1
      omega)
    have hlt := a.dayOfYear_lt
    rw [daysBeforeYear_succ] at hmono
    rw [dayNumber_eq]
    omega
  have hfirst : daysBeforeYear minYear ≤ b.dayNumber := by
    have hmono := daysBeforeYear_mono b.isDay.1
    rw [dayNumber_eq]
    omega
  have hspan : daysBeforeYear (maxYear + 1) ≤ daysBeforeYear minYear + 4294967296 := by decide
  omega

/-- Nor months, even if a year's worth of them is counted as one. -/
theorem monthNumber_lt_add (a b : Date) : a.monthNumber < b.monthNumber + 4294967296 := by
  obtain ⟨-, hmax, -, h12, -, -⟩ := a.isDay
  obtain ⟨hmin, -, h1, -, -, -⟩ := b.isDay
  unfold monthNumber
  unfold maxYear at hmax
  unfold minYear at hmin
  omega

/-! ## Order -/

theorem before_of_dayNumber_lt {a b : Date} (h : a.dayNumber < b.dayNumber) : a.Before b := by
  rcases before_trichotomy a b with hab | rfl | hba
  · exact hab
  · exact absurd h (Int.lt_irrefl _)
  · have := dayNumber_lt hba
    omega

theorem before_of_monthNumber_lt {a b : Date} (h : a.monthNumber < b.monthNumber) :
    a.Before b := by
  obtain ⟨-, -, ha1, ha12, -, -⟩ := a.isDay
  obtain ⟨-, -, hb1, hb12, -, -⟩ := b.isDay
  unfold monthNumber at h
  unfold Before
  omega

/-! ## One day after the other -/

/-- The day after a day: the next one of the month, or the first one of the next month or year after
the last one. -/
def IsNext (a b : Date) : Prop :=
  (b.year = a.year ∧ b.month = a.month ∧ b.day = a.day + 1) ∨
    (a.day = daysInMonth a.year a.month ∧
      ((b.year = a.year ∧ b.month = a.month + 1 ∧ b.day = 1) ∨
        (a.month = 12 ∧ b.year = a.year + 1 ∧ b.month = 1 ∧ b.day = 1)))

theorem dayNumber_of_isNext {a b : Date} (h : a.IsNext b) : b.dayNumber = a.dayNumber + 1 := by
  obtain ⟨-, -, hm1, -, hd1, -⟩ := a.isDay
  have hnext := daysBeforeMonth_succ a.year hm1
  unfold dayNumber
  rcases h with ⟨hyear, hmonth, hday⟩ | ⟨hlast, ⟨hyear, hmonth, hday⟩ | ⟨h12, hyear, hmonth, hday⟩⟩
  · rw [hyear, hmonth, hday]
    omega
  · rw [hyear, hmonth, hday, hnext]
    omega
  · have hyears := daysBeforeYear_succ a.year
    have hwhole : daysBeforeMonth a.year (12 + 1) = _ := daysBeforeMonth_thirteen a.year
    have hfirst : daysBeforeMonth (a.year + 1) 1 = 0 := rfl
    rw [h12] at hnext hlast ⊢
    rw [hyear, hmonth, hday, hfirst]
    omega

/-- Only the last day of the calendar has no day after it. -/
theorem exists_isNext {a b : Date} (h : a.Before b) : ∃ c, a.IsNext c := by
  obtain ⟨hmin, hmax, hm1, hm12, hd1, hd⟩ := a.isDay
  obtain ⟨-, hmaxb, -, hm12b, -, hdb⟩ := b.isDay
  by_cases hday : a.day < daysInMonth a.year a.month
  · exact ⟨⟨a.year, a.month, a.day + 1, hmin, hmax, hm1, hm12, by omega, hday⟩,
      .inl ⟨rfl, rfl, rfl⟩⟩
  have hlast : a.day = daysInMonth a.year a.month := by omega
  have hone : ∀ year month, 1 ≤ daysInMonth year month := by
    intro year month
    unfold daysInMonth
    split
    · split <;> decide
    all_goals decide
  by_cases hmonth : a.month < 12
  · exact ⟨⟨a.year, a.month + 1, 1, hmin, hmax, by omega, hmonth, by omega, hone _ _⟩,
      .inr ⟨hlast, .inl ⟨rfl, rfl, rfl⟩⟩⟩
  have h12 : a.month = 12 := by omega
  have hyear : a.year + 1 ≤ maxYear := by
    rcases h with hlt | ⟨hyear, hlt | ⟨hsame, hlt⟩⟩
    · omega
    · omega
    · rw [← hyear, ← hsame] at hdb
      omega
  exact ⟨⟨a.year + 1, 1, 1, by omega, hyear, by omega, by omega, by omega, hone _ _⟩,
    .inr ⟨hlast, .inr ⟨h12, rfl, rfl, rfl⟩⟩⟩

/-- The second day comes so many days after the first. -/
inductive DaysLater : Nat → Date → Date → Prop
  | same (a : Date) : DaysLater 0 a a
  | next {n : Nat} {a b c : Date} (step : a.IsNext b) (rest : DaysLater n b c) :
    DaysLater (n + 1) a c

/-- Days are so far apart as their numbers. -/
theorem daysLater_iff {n : Nat} {a b : Date} :
    DaysLater n a b ↔ a.dayNumber + n = b.dayNumber := by
  constructor
  · intro h
    induction h with
    | same => omega
    | next step _ ih =>
      have := dayNumber_of_isNext step
      omega
  · intro h
    induction n generalizing a with
    | zero =>
      rw [dayNumber_inj (a := a) (b := b) (by omega)]
      exact .same b
    | succ n ih =>
      obtain ⟨c, hc⟩ := exists_isNext (before_of_dayNumber_lt (a := a) (b := b) (by omega))
      have := dayNumber_of_isNext hc
      exact .next hc (ih (by omega))

end Date

end MailSearch.Calendar
