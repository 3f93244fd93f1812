import MailSearch.Proofs.Query.Coverage
import MailSearch.Proofs.Query.Kept

/-!
# The duration that is shown

Two operators set each bound on the time of a message: one to a day, and one to the point in time
that a duration leads back to. A query keeps the text of the duration next to the bound
(`ParsedQuery.echo`), to show it. A day sets the bound and leaves that text in place.

So the text that is shown names the bound in force, unless the last term for the bound is a day that
set it to something else (`ParsedQuery.echoInForce_iff`). `ParsedQuery.echo_overridden` is a query
that shows a duration, and asks for the messages before a day.
-/

namespace MailSearch

open Calendar

/-- A bound on the time of a message. -/
inductive DateBound where
  | before
  | after
  deriving DecidableEq, Repr

namespace DateBound

/-- The operator that sets the bound to a day. -/
def dayOp : DateBound → Operator
  | before => .before
  | after => .after

/-- The operator that sets the bound to where a duration leads back to. -/
def durationOp : DateBound → Operator
  | before => .olderThan
  | after => .newerThan

/-- The term sets the bound. -/
def IsSetBy (b : DateBound) (r : AppliedTerm) : Prop := r.op = b.dayOp ∨ r.op = b.durationOp

instance (b : DateBound) (r : AppliedTerm) : Decidable (b.IsSetBy r) :=
  inferInstanceAs (Decidable (r.op = b.dayOp ∨ r.op = b.durationOp))

end DateBound

/-! ## The last terms -/

namespace Token

variable {now : Timestamp} {tokens : List Token} {r : AppliedTerm}

section Latest

variable {p q : AppliedTerm → Bool}

theorem of_latest (h : latest now tokens p = some r) : r ∈ applied now tokens ∧ p r = true :=
  List.mem_filter.mp (List.mem_of_getLast? h)

/-- The last term of a kind is also the last one of a narrower kind, if it is of that kind. -/
theorem latest_of_imp (himp : ∀ r, q r = true → p r = true) (h : latest now tokens p = some r)
    (hq : q r = true) : latest now tokens q = some r := by
  rw [latest, List.getLast?_filter] at h ⊢
  obtain ⟨-, later, earlier, hsplit, hlater⟩ := List.find?_eq_some_iff_append.mp h
  refine List.find?_eq_some_iff_append.mpr ⟨hq, later, earlier, hsplit, fun r' hr' => ?_⟩
  have hnot : ¬ p r' = true := by simpa using hlater r' hr'
  simpa using mt (himp r') hnot

/-- If there is a term of a kind, there is a last one of every wider kind. -/
theorem exists_latest_of_imp (himp : ∀ r, q r = true → p r = true)
    (h : latest now tokens q = some r) : ∃ last, latest now tokens p = some last := by
  obtain ⟨hmem, hq⟩ := of_latest h
  refine Option.ne_none_iff_exists'.mp fun hnone => ?_
  have hkept : r ∈ (applied now tokens).filter p := List.mem_filter.mpr ⟨hmem, himp r hq⟩
  rw [List.getLast?_eq_none_iff.mp hnone] at hkept
  cases hkept

end Latest

/-- The duration of an applied term leads back to a point in time. -/
theorem moment?_of_durationOp {b : DateBound} (h : r ∈ applied now tokens)
    (hop : r.op = b.durationOp) : ∃ t, ParsedQuery.resolveDuration? now r.value.toList = some t ∧
      r.moment? now = some t := by
  obtain ⟨token, -, happlied⟩ := List.mem_filterMap.mp h
  obtain ⟨content, keyword, value, -, -, hvalue, -, hsuits⟩ := exists_of_applied? happlied
  have hmoment : r.moment? now = ParsedQuery.resolveDuration? now r.value.toList := by
    cases b <;> simp [AppliedTerm.moment?, hop, DateBound.durationOp]
  have hresolves : (ParsedQuery.resolveDuration? now r.value.toList).isSome = true := by
    rw [hop] at hsuits
    rw [hvalue, String.toList_ofList]
    cases b <;> exact hsuits
  obtain ⟨t, ht⟩ := Option.isSome_iff_exists.mp hresolves
  exact ⟨t, ht, hmoment.trans ht⟩

/-- The last term for a bound is a day. It stands behind a duration, and sets the bound to something
else than the last one does. -/
def Overridden (now : Timestamp) (tokens : List Token) (b : DateBound) : Prop :=
  ∃ day duration,
    latest now tokens (b.IsSetBy ·) = some day ∧
    day.op = b.dayOp ∧
    latest now tokens (·.op = b.durationOp) = some duration ∧
    day.moment? now ≠ duration.moment? now

end Token

/-! ## What is shown of a bound -/

namespace ParsedQuery

/-- The bound that a query sets. -/
def bound (q : ParsedQuery) : DateBound → Option Timestamp
  | .before => q.before
  | .after => q.after

/-- The text of the duration that is shown for a bound. -/
def echo (q : ParsedQuery) : DateBound → Option String
  | .before => q.olderThan
  | .after => q.newerThan

/-- What is shown for the bound leads back to it. -/
def EchoInForce (now : Timestamp) (q : ParsedQuery) (b : DateBound) : Prop :=
  ∀ text ∈ q.echo b, ∃ t, resolveDuration? now text.toList = some t ∧ q.bound b = some t

theorem bound_parse (now : Timestamp) (query : String) (b : DateBound) :
    (parse now query).bound b =
      (Token.latest now (Token.scan query.toList) (b.IsSetBy ·)).bind (·.moment? now) := by
  cases b with
  | before => exact latest_foldl (fun h => h.before) (fun _ _ => rfl) rfl _
  | after => exact latest_foldl (fun h => h.after) (fun _ _ => rfl) rfl _

theorem echo_parse (now : Timestamp) (query : String) (b : DateBound) :
    (parse now query).echo b =
      (Token.latest now (Token.scan query.toList) (·.op = b.durationOp)).map (·.value) := by
  rw [Option.map_eq_bind]
  cases b with
  | before => exact latest_foldl (fun h => h.olderThan) (fun _ _ => rfl) rfl _
  | after => exact latest_foldl (fun h => h.newerThan) (fun _ _ => rfl) rfl _

/-- **What is shown is in force unless a day overrides it.** For every query, the duration that is
shown for a bound leads back to that bound, except where the last term for the bound is a day that
stands behind the duration and sets another bound. -/
theorem echoInForce_iff (now : Timestamp) (query : String) (b : DateBound) :
    EchoInForce now (parse now query) b ↔
      ¬ Token.Overridden now (Token.scan query.toList) b := by
  generalize htokens : Token.scan query.toList = tokens
  have hbound := bound_parse now query b
  have hecho := echo_parse now query b
  rw [htokens] at hbound hecho
  unfold EchoInForce Token.Overridden
  cases hduration : Token.latest now tokens (·.op = b.durationOp) with
  | none => simp [hecho, hduration]
  | some duration =>
    have himp (r : AppliedTerm) : decide (r.op = b.durationOp) = true →
        decide (b.IsSetBy r) = true := by
      simpa using .inr
    obtain ⟨last, hlast⟩ := Token.exists_latest_of_imp himp hduration
    obtain ⟨hmem, hop⟩ := Token.of_latest hduration
    obtain ⟨t, hresolved, hmoment⟩ := Token.moment?_of_durationOp hmem (by simpa using hop)
    have hshown : (∀ text ∈ (parse now query).echo b, ∃ t,
        resolveDuration? now text.toList = some t ∧ (parse now query).bound b = some t) ↔
          last.moment? now = some t := by
      simp [hecho, hduration, hbound, hlast, hresolved]
    rw [hshown]
    by_cases hday : last.op = b.dayOp
    · simp [hlast, hday, hmoment]
    · have hset : b.IsSetBy last := by simpa using (Token.of_latest hlast).2
      have hlastop : last.op = b.durationOp := hset.resolve_left hday
      have hsame := Token.latest_of_imp himp hlast (by simpa using hlastop)
      rw [hduration] at hsame
      cases hsame
      simp [hlast, hday, hmoment]

/-- A query that shows seven days, and asks for what was sent before a day years ago. -/
theorem echo_overridden :
    let now : Timestamp := .startOfDay ⟨2026, 10, 16, by decide⟩
    let q := parse now "older_than:7d before:2024-01-01"
    q.echo .before = some "7d" ∧
      resolveDuration? now "7d".toList = some (.startOfDay ⟨2026, 10, 9, by decide⟩) ∧
      q.bound .before = some (.startOfDay ⟨2024, 1, 1, by decide⟩) ∧
      ¬ EchoInForce now q .before := by
  intro now q
  have hquery : "older_than:7d before:2024-01-01".toList =
      ['o', 'l', 'd', 'e', 'r', '_', 't', 'h', 'a', 'n', ':', '7', 'd', ' ',
        'b', 'e', 'f', 'o', 'r', 'e', ':', '2', '0', '2', '4', '-', '0', '1', '-', '0', '1'] := by
    decide
  have hq : q =
      { olderThan := some "7d", before := some (.startOfDay ⟨2024, 1, 1, by decide⟩) } := by
    rw [show q = parse now "older_than:7d before:2024-01-01" from rfl, parse, hquery,
      Token.scan_of_trimLeft_cons rfl, Token.scan_of_trimLeft_cons rfl,
      Token.scan_of_trimLeft_nil rfl]
    decide
  have hshown : q.echo .before = some "7d" := by rw [hq]; rfl
  have hbound : q.bound .before = some (.startOfDay ⟨2024, 1, 1, by decide⟩) := by rw [hq]; rfl
  have hresolved :
      resolveDuration? now "7d".toList = some (.startOfDay ⟨2026, 10, 9, by decide⟩) := by decide
  refine ⟨hshown, hresolved, hbound, fun h => ?_⟩
  obtain ⟨t, ht, hbefore⟩ := h "7d" hshown
  rw [hresolved] at ht
  rw [hbound, ← ht] at hbefore
  revert hbefore
  decide

end ParsedQuery

end MailSearch
