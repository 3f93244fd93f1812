import MailSearch.Proofs.Calendar.DayNumber
import MailSearch.Proofs.Search.Agreement

/-!
# Ranges of days

The first and the last day of a search are turned into bounds on points in time
(`Timestamp.startOfDay`, `Timestamp.endOfDay`). The lower bound is the first instant of its day
(`startOfDay_le_iff`). The upper one is the last whole second of its day, so it leaves out what
comes after that second on the same day: its fractions, and a leap second (`le_endOfDay_iff`).

`PredicateSet.days_accepted_iff` says what the two options accept, and
`PredicateSet.late_evening_left_out` is a message of the day asked for that they do not.
-/

namespace MailSearch.Calendar

/-- The day lies between the two days, both included. Either of them may be left open. -/
def Date.IsWithin (d : Date) (first last : Option Date) : Prop :=
  (∀ a ∈ first, ¬ d.Before a) ∧ ∀ b ∈ last, ¬ b.Before d

/-- The time of day comes after the last whole second: in a fraction of it, or in the leap second
that may follow. -/
def Clock.IsPastLastSecond (t : Clock) : Prop := t.second = Clock.lastSecond.second ∧ 0 < t.nano

theorem Clock.second_le_lastSecond (t : Clock) : t.second ≤ Clock.lastSecond.second := by
  exact Nat.le_of_lt_succ t.isClock.1

namespace Timestamp

variable {d : Date} {t : Timestamp}

theorem le_iff_not_before {a b : Timestamp} : a ≤ b ↔ ¬ b.Before a := by
  rw [le_def, ← Int.not_lt, not_congr]
  constructor
  · intro hrank
    rcases before_trichotomy a b with h | rfl | h
    · exact absurd (rank_lt h) (Int.lt_asymm hrank)
    · exact absurd hrank (Int.lt_irrefl _)
    · exact h
  · exact rank_lt

/-- Nothing on a day comes before its start. -/
theorem startOfDay_le_iff : startOfDay d ≤ t ↔ ¬ t.date.Before d := by
  have hnever : ¬ (t.clock.second < Clock.midnight.second ∨
      (t.clock.second = Clock.midnight.second ∧ t.clock.nano < Clock.midnight.nano)) := by
    rintro (h | ⟨-, h⟩) <;> exact Nat.not_lt_zero _ h
  rw [le_iff_not_before, Before, startOfDay]
  simp only [hnever, and_false, or_false]

/-- On a day, only what comes after its last whole second comes after the bound. -/
theorem le_endOfDay_iff :
    t ≤ endOfDay d ↔ ¬ d.Before t.date ∧ (t.date = d → ¬ t.clock.IsPastLastSecond) := by
  have hclock : (Clock.lastSecond.second < t.clock.second ∨
      (Clock.lastSecond.second = t.clock.second ∧ Clock.lastSecond.nano < t.clock.nano)) ↔
        t.clock.IsPastLastSecond := by
    have hle := t.clock.second_le_lastSecond
    constructor
    · rintro (h | ⟨hsecond, hnano⟩)
      · omega
      · exact ⟨hsecond.symm, hnano⟩
    · rintro ⟨hsecond, hnano⟩
      exact .inr ⟨hsecond.symm, hnano⟩
  rw [le_iff_not_before, Before, endOfDay]
  simp only [hclock, not_or, not_and, eq_comm (a := d)]

end Timestamp

end MailSearch.Calendar

namespace MailSearch

open Calendar

/-- The predicate for a pair of bounds accepts what lies between them, the bounds included. -/
theorem Predicate.holds_ofBounds_iff (after before : Option Timestamp) (m : Message) :
    (∀ p ∈ ofBounds after before, p.holds m = true) ↔
      (∀ t ∈ after, t ≤ m.sentAt) ∧ ∀ t ∈ before, m.sentAt ≤ t := by
  unfold ofBounds
  cases after <;> cases before <;> simp [holds]

/-- The predicate for the bounds of two days accepts the messages of those days and of the days
between, without what comes after the last whole second. -/
theorem Predicate.ofBounds_days_iff (first last : Option Date) (m : Message) :
    (∀ p ∈ ofBounds (first.map Timestamp.startOfDay) (last.map Timestamp.endOfDay),
      p.holds m = true) ↔
      m.sentAt.date.IsWithin first last ∧
        (last = some m.sentAt.date → ¬ m.sentAt.clock.IsPastLastSecond) := by
  have hrange : (∀ p ∈ ofBounds (first.map Timestamp.startOfDay) (last.map Timestamp.endOfDay),
      p.holds m = true) ↔ (∀ a ∈ first, Timestamp.startOfDay a ≤ m.sentAt) ∧
        ∀ b ∈ last, m.sentAt ≤ Timestamp.endOfDay b := by
    simp [holds_ofBounds_iff]
  rw [hrange, Date.IsWithin, and_assoc]
  refine and_congr (forall₂_congr fun a _ => Timestamp.startOfDay_le_iff) ?_
  constructor
  · intro h
    refine ⟨fun b hb => (Timestamp.le_endOfDay_iff.mp (h b hb)).1, fun hlast => ?_⟩
    exact (Timestamp.le_endOfDay_iff.mp (h _ hlast)).2 rfl
  · rintro ⟨hdays, hpast⟩ b hb
    refine Timestamp.le_endOfDay_iff.mpr ⟨hdays b hb, ?_⟩
    rintro rfl
    exact hpast hb

/-- **A range of days.** The first and the last day of a search accept the messages of the user that
were sent on one of these days or between them, without those sent on the last day after its last
whole second. -/
theorem PredicateSet.days_accepted_iff (userId : String) (first last : Option Date) (m : Message) :
    (compile userId none { dateFrom := first, dateTo := last }).holds m = true ↔
      m.userId = userId ∧ m.sentAt.date.IsWithin first last ∧
        (last = some m.sentAt.date → ¬ m.sentAt.clock.IsPastLastSecond) := by
  have hconditions : (compile userId none { dateFrom := first, dateTo := last }).conditions =
      Predicate.ofBounds (first.map Timestamp.startOfDay) (last.map Timestamp.endOfDay) := by
    simp [compile, Predicate.ofAccounts, Predicate.ofOptions, Predicate.given]
  rw [holds_iff, hconditions, Predicate.ofBounds_days_iff]
  rfl

/-- A message sent half a second before midnight is left out of a search for its own day. -/
theorem PredicateSet.late_evening_left_out :
    let day : Date := ⟨2024, 1, 15, by decide⟩
    let m : Message :=
      { sampleCalls.message with sentAt := ⟨day, ⟨86399, 500000000, by decide⟩⟩ }
    m.sentAt.date.IsWithin (some day) (some day) ∧ m.userId = "user-1" ∧
      (compile "user-1" none { dateFrom := some day, dateTo := some day }).holds m = false := by
  refine ⟨⟨?_, ?_⟩, rfl, by decide⟩ <;>
    · rintro _ ⟨⟩
      unfold Date.Before
      decide

end MailSearch
