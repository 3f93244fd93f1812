import MailSearch.Proofs.Calendar.Steps
import MailSearch.Proofs.Text.Digits
import MailSearch.Query.Parsed

/-!
# Durations follow the calendar

A text such as `7d`, `2m` or `1y` is resolved to the point in time so many days, months or years
back, whatever its count is: `ParsedQuery.durations_follow_calendar`.

* `Duration.Written`: the texts that write a count of units, with the letter in either case and any
  zeros in front. `Duration.read?_of_written`: how one is read.
* `Timestamp.IsBack`: a point in time that lies so many units back.
* `ParsedQuery.resolveDuration?_of_written`: a text that writes a duration is resolved exactly if
  that point exists.
-/

namespace MailSearch

open Text Calendar

/-! ## Texts of durations -/

namespace Duration

/-- The text writes a count of units: digits, and the unit's letter in either case. -/
def Written (amount : Nat) (unit : CalendarUnit) (cs : List Char) : Prop :=
  ∃ digits letter, cs = digits ++ [letter] ∧ digits ≠ [] ∧ (∀ c ∈ digits, c.isDigit = true) ∧
    digitsValue digits = amount ∧ CalendarUnit.ofLetter? letter = some unit

variable {amount : Nat} {unit : CalendarUnit} {cs : List Char}

/-- No letter of a unit is a digit. -/
theorem isDigit_of_ofLetter? {c : Char} (h : CalendarUnit.ofLetter? c = some unit) :
    c.isDigit = false := by
  have hletter : c.toLower = 'd' ∨ c.toLower = 'm' ∨ c.toLower = 'y' := by
    unfold CalendarUnit.ofLetter? at h
    grind
  by_contra hdigit
  rw [Bool.not_eq_false] at hdigit
  -- a digit has no lower case of its own
  have hlower : c.toLower = c := by
    simp only [Char.isDigit, Bool.and_eq_true, decide_eq_true_eq] at hdigit
    unfold Char.toLower
    rw [dif_neg]
    rintro ⟨hlo, -⟩
    exact absurd (UInt32.le_trans hlo hdigit.2) (by decide)
  rw [hlower] at hletter
  rcases hletter with rfl | rfl | rfl <;> cases hdigit

/-- A text that writes a duration is read as it, if 32 bits hold the count. -/
theorem read?_of_written (h : Written amount unit cs) :
    read? cs = if amount < word32 then some ⟨amount, unit⟩ else none := by
  obtain ⟨digits, letter, rfl, hne, hdigits, rfl, hunit⟩ := h
  have hspan : spanDigits (digits ++ [letter]) = (digits, [letter]) :=
    spanDigits_append_of hdigits (noDigit_cons (isDigit_of_ofLetter? hunit))
  have hread : readBelow? word32 digits =
      if digitsValue digits < word32 then some (digitsValue digits) else none :=
    readBelow?_of_writes ⟨hne, hdigits, rfl⟩
  simp only [read?, hspan, hread, hunit]
  by_cases hamount : digitsValue digits < word32 <;> simp [hamount]

/-- Only such texts are read. -/
theorem written_of_read? {d : Duration} (h : read? cs = some d) :
    Written d.amount d.unit cs := by
  have happend := spanDigits_append cs
  unfold read? at h
  split at h
  · rename_i digits letter hspan
    obtain ⟨amount, hamount, h⟩ := Option.bind_eq_some_iff.mp h
    obtain ⟨unit, hunit, h⟩ := Option.bind_eq_some_iff.mp h
    cases h
    obtain ⟨hne, hdigits, hvalue, -⟩ := readBelow?_eq_some_iff.mp hamount
    rw [hspan] at happend
    exact ⟨digits, letter, happend.symm, hne, hdigits, hvalue, hunit⟩
  · cases h

end Duration

/-! ## Points in time -/

namespace Calendar.Timestamp

variable {t u : Timestamp}

/-- The point in time lies so many units before `now`, at the same time of day. A year is twelve
months. -/
def IsBack (now : Timestamp) (amount : Nat) (unit : CalendarUnit) (t : Timestamp) : Prop :=
  t.clock = now.clock ∧
    match unit with
    | .day => Date.DaysLater amount t.date now.date
    | .month => now.date.IsMonthsBack amount t.date
    | .year => now.date.IsMonthsBack (12 * amount) t.date

theorem subDays?_eq_some_iff {days : Nat} :
    t.subDays? days = some u ↔ t.IsBack days .day u := by
  rw [subDays?, Option.map_eq_some_iff, IsBack, Date.daysLater_iff]
  constructor
  · rintro ⟨date, hdate, rfl⟩
    exact ⟨rfl, Date.subDays?_eq_some_iff.mp hdate⟩
  · rintro ⟨hclock, hdate⟩
    refine ⟨u.date, Date.subDays?_eq_some_iff.mpr hdate, ?_⟩
    rw [← hclock]

theorem subMonths?_eq_some_iff {months : Nat} :
    t.subMonths? months = some u ↔ t.IsBack months .month u := by
  rw [subMonths?, Option.map_eq_some_iff]
  constructor
  · rintro ⟨date, hdate, rfl⟩
    exact ⟨rfl, Date.subMonths?_eq_some_iff.mp hdate⟩
  · rintro ⟨hclock, hdate⟩
    refine ⟨u.date, Date.subMonths?_eq_some_iff.mpr hdate, ?_⟩
    rw [← hclock]

/-- What lies so many units back is still on the calendar only for counts of 32 bits. -/
theorem IsBack.amount_lt {amount : Nat} {unit : CalendarUnit} (h : t.IsBack amount unit u) :
    amount < word32 := by
  have hdays := Date.dayNumber_lt_add t.date u.date
  have hmonths := Date.monthNumber_lt_add t.date u.date
  obtain ⟨-, h⟩ := h
  unfold word32
  cases unit with
  | day =>
    have := Date.daysLater_iff.mp h
    omega
  | month =>
    have := h.1
    omega
  | year =>
    have := h.1
    omega

end Calendar.Timestamp

/-- A duration is counted back as the calendar says. -/
theorem Duration.before?_eq_some_iff {d : Duration} {t u : Timestamp} :
    d.before? t = some u ↔ t.IsBack d.amount d.unit u := by
  obtain ⟨amount, unit⟩ := d
  cases unit with
  | day => exact Timestamp.subDays?_eq_some_iff
  | month => exact Timestamp.subMonths?_eq_some_iff
  | year =>
    refine Timestamp.subMonths?_eq_some_iff.trans ?_
    rw [Nat.mul_comm]
    rfl

namespace Calendar.Timestamp

variable {now t u : Timestamp} {amount less more : Nat} {unit : CalendarUnit}

theorem IsBack.unique (ht : now.IsBack amount unit t) (hu : now.IsBack amount unit u) : t = u := by
  rw [← Duration.before?_eq_some_iff (d := ⟨amount, unit⟩)] at ht hu
  exact Option.some.inj (ht.symm.trans hu)

/-- More units back is earlier. -/
theorem IsBack.before (hlt : less < more) (ht : now.IsBack less unit t)
    (hu : now.IsBack more unit u) : u.Before t := by
  obtain ⟨-, ht⟩ := ht
  obtain ⟨-, hu⟩ := hu
  left
  cases unit with
  | day =>
    have := Date.daysLater_iff.mp ht
    have := Date.daysLater_iff.mp hu
    exact Date.before_of_dayNumber_lt (by omega)
  | month =>
    have := ht.1
    have := hu.1
    exact Date.before_of_monthNumber_lt (by omega)
  | year =>
    have := ht.1
    have := hu.1
    exact Date.before_of_monthNumber_lt (by omega)

/-- Nothing back is the same point in time. -/
theorem isBack_zero (now : Timestamp) (unit : CalendarUnit) : now.IsBack 0 unit now := by
  obtain ⟨-, -, -, -, -, hday⟩ := now.date.isDay
  refine ⟨rfl, ?_⟩
  cases unit with
  | day => exact .same _
  | month => exact ⟨Int.add_zero _, (Nat.min_eq_left hday).symm⟩
  | year => exact ⟨Int.add_zero _, (Nat.min_eq_left hday).symm⟩

/-- No number of units back is later. -/
theorem IsBack.not_before (h : now.IsBack amount unit t) : ¬ now.Before t := by
  intro hbefore
  have hlater := rank_lt hbefore
  rcases Nat.eq_zero_or_pos amount with rfl | hpos
  · rw [h.unique (now.isBack_zero unit)] at hlater
    exact Int.lt_irrefl _ hlater
  · have hearlier := rank_lt (IsBack.before hpos (now.isBack_zero unit) h)
    exact Int.lt_asymm hlater hearlier

end Calendar.Timestamp

/-! ## Texts resolved -/

namespace ParsedQuery

open Duration (Written)

variable {now t : Timestamp} {amount : Nat} {unit : CalendarUnit} {cs : List Char}

/-- A text that writes a duration is resolved exactly if the calendar has the point in time that
lies so many units back, however large the count. -/
theorem resolveDuration?_of_written (h : Written amount unit cs) :
    resolveDuration? now cs = some t ↔ now.IsBack amount unit t := by
  unfold resolveDuration?
  rw [Duration.read?_of_written h]
  split
  · exact Duration.before?_eq_some_iff
  · rename_i hlarge
    rw [Option.bind_none]
    exact iff_of_false (nomatch ·) fun hback => hlarge hback.amount_lt

/-- Durations that are counted back from a point in time follow the calendar. -/
structure FollowsCalendar (now : Timestamp) (resolve : List Char → Option Timestamp) : Prop where
  /-- Of two durations in one unit, the longer one leads to the earlier point. -/
  earlier : ∀ {unit less more cs ds s t}, Written less unit cs → Written more unit ds →
    less < more → resolve cs = some s → resolve ds = some t → t.Before s
  /-- No text leads to a later point than the one counted from. -/
  notAfter : ∀ {cs t}, resolve cs = some t → ¬ now.Before t
  /-- A count of days leads to the day from which it takes so many days to the present one. It fails
  only if there is no such day. -/
  days : ∀ {amount cs t}, Written amount .day cs → (resolve cs = some t ↔
    t.clock = now.clock ∧ Date.DaysLater amount t.date now.date)
  /-- A count of months leads to the same day so many months earlier, or to the last day of that
  month if it is shorter. It fails only if the calendar does not have the month. -/
  months : ∀ {amount cs t}, Written amount .month cs → (resolve cs = some t ↔
    t.clock = now.clock ∧
      t.date.year * 12 + t.date.month + amount = now.date.year * 12 + now.date.month ∧
      t.date.day = min now.date.day (daysInMonth t.date.year t.date.month))
  /-- A count of years has the outcome of twelve times as many months, be it a failure. -/
  years : ∀ {amount cs ds}, Written amount .year cs → Written (12 * amount) .month ds →
    resolve cs = resolve ds

/-- **Durations follow the calendar**, from any point in time and for any counts. -/
theorem durations_follow_calendar (now : Timestamp) :
    FollowsCalendar now (resolveDuration? now) := by
  constructor
  case earlier =>
    intro unit less more cs ds s t hless hmore hlt hs ht
    exact Timestamp.IsBack.before hlt ((resolveDuration?_of_written hless).mp hs)
      ((resolveDuration?_of_written hmore).mp ht)
  case notAfter =>
    intro cs t ht
    obtain ⟨d, hread, -⟩ := Option.bind_eq_some_iff.mp ht
    have hback := (resolveDuration?_of_written (Duration.written_of_read? hread)).mp ht
    exact Timestamp.IsBack.not_before hback
  case days => exact fun h => resolveDuration?_of_written h
  case months => exact fun h => resolveDuration?_of_written h
  case years =>
    intro amount cs ds hyears hmonths
    refine Option.ext fun t => ?_
    rw [resolveDuration?_of_written hyears, resolveDuration?_of_written hmonths]
    rfl

/-- The last day of March 2024, at noon. -/
def lastOfMarch : Timestamp := ⟨⟨2024, 3, 31, by decide⟩, ⟨43200, 0, by decide⟩⟩

/-- From the last day of March, a month leads to the last day of February and two to one before it.
A year is as long as twelve months. -/
theorem durations_follow_sample :
    ∃ february january,
      resolveDuration? lastOfMarch ['1', 'm'] = some february ∧
      february.date = ⟨2024, 2, 29, by decide⟩ ∧
      resolveDuration? lastOfMarch ['0', '2', 'M'] = some january ∧
      january.Before february ∧
      resolveDuration? lastOfMarch ['1', 'y'] =
        resolveDuration? lastOfMarch ['1', '2', 'm'] := by
  have hfollows := durations_follow_calendar lastOfMarch
  have hone : Written 1 .month ['1', 'm'] :=
    ⟨['1'], 'm', rfl, nofun, List.all_eq_true.mp rfl, rfl, rfl⟩
  have htwo : Written 2 .month ['0', '2', 'M'] :=
    ⟨['0', '2'], 'M', rfl, nofun, List.all_eq_true.mp rfl, rfl, rfl⟩
  have hyear : Written 1 .year ['1', 'y'] :=
    ⟨['1'], 'y', rfl, nofun, List.all_eq_true.mp rfl, rfl, rfl⟩
  have htwelve : Written (12 * 1) .month ['1', '2', 'm'] :=
    ⟨['1', '2'], 'm', rfl, nofun, List.all_eq_true.mp rfl, rfl, rfl⟩
  have hfebruary : resolveDuration? lastOfMarch ['1', 'm'] =
      some ⟨⟨2024, 2, 29, by decide⟩, ⟨43200, 0, by decide⟩⟩ :=
    (hfollows.months hone).mpr ⟨rfl, by decide, by decide⟩
  have hjanuary : resolveDuration? lastOfMarch ['0', '2', 'M'] =
      some ⟨⟨2024, 1, 31, by decide⟩, ⟨43200, 0, by decide⟩⟩ :=
    (hfollows.months htwo).mpr ⟨rfl, by decide, by decide⟩
  exact ⟨_, _, hfebruary, rfl, hjanuary,
    hfollows.earlier hone htwo (by decide) hfebruary hjanuary, hfollows.years hyear htwelve⟩

end ParsedQuery

end MailSearch
