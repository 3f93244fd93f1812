import MailSearch.Proofs.Query.WrittenDays
import MailSearch.Proofs.Search.AddedTerms
import MailSearch.Proofs.Search.DayRange

/-!
# Days in a query

A day in a query stands for the midnight that starts it, also where it is the last day asked for.
So of its last day a query accepts the first instant, and nothing else
(`Timestamp.le_startOfDay_iff`). The last day of the options reaches up to its last whole second.

`PredicateSet.written_days_accepted_iff` says what a query for the days from one to another accepts,
and `PredicateSet.noon_left_out` is a message of the day asked for that it does not.
-/

namespace MailSearch.Calendar

theorem Clock.eq_midnight_iff {t : Clock} :
    t = .midnight ↔ ¬ (0 < t.second ∨ (0 = t.second ∧ 0 < t.nano)) := by
  obtain ⟨second, nano, isClock⟩ := t
  simp only [midnight, mk.injEq]
  omega

/-- On a day, nothing but its start comes no later than its start. -/
theorem Timestamp.le_startOfDay_iff {d : Date} {t : Timestamp} :
    t ≤ startOfDay d ↔ ¬ d.Before t.date ∧ (t.date = d → t.clock = .midnight) := by
  rw [le_iff_not_before, Before, not_or, not_and, Clock.eq_midnight_iff, eq_comm (a := t.date)]
  rfl

end MailSearch.Calendar

namespace MailSearch

open Calendar

/-- A query with bounds alone has their predicate alone. -/
theorem Predicate.ofQuery_bounds (after before : Option Timestamp) :
    ofQuery { after := after, before := before } = ofBounds after before := by
  unfold ofQuery
  simp [given]

namespace PredicateSet

theorem conditions_bounds (userId : String) (after before : Option Timestamp) :
    (compile userId (some { after := after, before := before }) {}).conditions =
      Predicate.ofBounds after before := by
  simp [compile, Predicate.ofQuery_bounds, Predicate.ofAccounts, Predicate.ofOptions,
    Predicate.given, Predicate.ofBounds]

/-- **Days in a query.** A query for the days from one to another, in whatever spelling, accepts the
messages of the user that were sent on one of these days or between them, without those sent on the
last day after its midnight. -/
theorem written_days_accepted_iff (userId : String) (now : Timestamp) (a b : WrittenDay)
    (m : Message) :
    (ofText userId now ("after:" ++ a.text ++ " before:" ++ b.text) {}).holds m = true ↔
      m.userId = userId ∧ m.sentAt.date.IsWithin (some a.date) (some b.date) ∧
        (m.sentAt.date = b.date → m.sentAt.clock = .midnight) := by
  have hrange : (∀ p ∈ Predicate.ofBounds (some (.startOfDay a.date)) (some (.startOfDay b.date)),
      p.holds m = true) ↔
        m.sentAt.date.IsWithin (some a.date) (some b.date) ∧
          (m.sentAt.date = b.date → m.sentAt.clock = .midnight) := by
    simp only [Predicate.holds_ofBounds_iff, Option.mem_def, Option.some.injEq, forall_eq',
      Timestamp.startOfDay_le_iff, Timestamp.le_startOfDay_iff, Date.IsWithin, and_assoc]
  rw [ofText, ParsedQuery.parse_days, holds_iff, conditions_bounds, hrange]
  rfl

/-- A message of noon is left out of a query for its own day. -/
theorem noon_left_out :
    let day : WrittenDay := { date := ⟨2024, 1, 15, by decide⟩, mark := .dash }
    let m : Message := { sampleCalls.message with sentAt := ⟨day.date, ⟨43200, 0, by decide⟩⟩ }
    day.text = "2024-01-15" ∧ m.userId = "user-1" ∧
      m.sentAt.date.IsWithin (some day.date) (some day.date) ∧
      (ofText "user-1" sampleCalls.message.sentAt "after:2024-01-15 before:2024-01-15" {}).holds m =
        false := by
  intro day m
  have hparse := ParsedQuery.parse_days sampleCalls.message.sentAt day day
  have hquery : "after:" ++ day.text ++ " before:" ++ day.text =
      "after:2024-01-15 before:2024-01-15" := by decide
  rw [hquery] at hparse
  refine ⟨by decide, rfl, ⟨?_, ?_⟩, ?_⟩
  · rintro _ ⟨⟩
    unfold Date.Before
    decide
  · rintro _ ⟨⟩
    unfold Date.Before
    decide
  · rw [ofText, hparse]
    decide

end PredicateSet

end MailSearch
