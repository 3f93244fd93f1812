import MailSearch.Proofs.Query.Kept

/-!
# Queries that ask for nothing

A query asks for something once one of its terms was applied, and from then on: later terms may move
a value to the other side of its aspect, but no field is emptied that is not filled elsewhere.

* `ParsedQuery.isEmpty_iff`: the fields of a query that asks for nothing (`AsksNothing`).
* `ParsedQuery.Adds.isEmpty_eq_false`: an applied term leaves a query that asks for something, and
  `ParsedQuery.isEmpty_foldl_iff`: so does a run with one.
* `ParsedQuery.isEmpty_ofTokens_iff`: a query asks for nothing exactly if all its tokens were set
  aside, and `ParsedQuery.ignored_ofTokens_iff`: exactly then its list of ignored terms spells them
  all.
-/

namespace MailSearch

open Text Calendar

/-! ## Tokens that leave no trace -/

/-- A token is set aside exactly if it is neither an applied term nor a text. -/
theorem Token.isRejected_iff {now : Timestamp} {t : Token} : t.isRejected now = true ↔
    t.applied? now = none ∧ ParsedQuery.phraseText? t = none ∧ ParsedQuery.wordText? t = none := by
  cases t with
  | word source => simp [isRejected, ParsedQuery.wordText?]
  | phrase content => simp [isRejected, ParsedQuery.phraseText?]
  | term negated keyword op value =>
    cases hvalue : value.content? with
    | none => simp [isRejected, applied?, ParsedQuery.phraseText?, ParsedQuery.wordText?, hvalue]
    | some content =>
      cases hrejected : negated && !op.canNegate || !op.suits now content <;>
        simp [isRejected, applied?, ParsedQuery.phraseText?, ParsedQuery.wordText?, hvalue,
          hrejected]

namespace ParsedQuery

/-! ## Empty fields -/

/-- Every field that a query can ask with is empty. -/
structure AsksNothing (q : ParsedQuery) : Prop where
  side : ∀ (a : Aspect) (negated : Bool), (q.side negated).get a = []
  cc : q.cc = []
  bcc : q.bcc = []
  folders : q.folders = []
  labels : q.labels = []
  filenames : q.filenames = []
  before : q.before = none
  after : q.after = none
  larger : q.larger = none
  smaller : q.smaller = none
  texts : q.texts = []

theorem isEmpty_aspects_iff {v : AspectValues} : v.isEmpty = true ↔ ∀ a, v.get a = [] := by
  simp only [AspectValues.isEmpty, Bool.and_eq_true, List.isEmpty_iff]
  constructor
  · rintro ⟨⟨⟨⟨hsender, hrecipient⟩, hsubject⟩, hhas⟩, hstatus⟩ a
    cases a <;> assumption
  · exact fun h => ⟨⟨⟨⟨h .sender, h .recipient⟩, h .subject⟩, h .has⟩, h .status⟩

theorem isEmpty_iff {q : ParsedQuery} : q.isEmpty = true ↔ q.AsksNothing := by
  simp only [isEmpty, Bool.and_eq_true, isEmpty_aspects_iff, List.isEmpty_iff,
    Option.isNone_iff_eq_none]
  constructor
  · rintro ⟨⟨⟨⟨⟨⟨⟨⟨⟨⟨⟨hwanted, hunwanted⟩, cc⟩, bcc⟩, folders⟩, labels⟩, filenames⟩, before⟩,
      after⟩, larger⟩, smaller⟩, texts⟩
    refine ⟨fun a negated => ?_, cc, bcc, folders, labels, filenames, before, after, larger,
      smaller, texts⟩
    cases negated
    · exact hwanted a
    · exact hunwanted a
  · intro h
    exact ⟨⟨⟨⟨⟨⟨⟨⟨⟨⟨⟨fun a => h.side a false, fun a => h.side a true⟩, h.cc⟩, h.bcc⟩, h.folders⟩,
      h.labels⟩, h.filenames⟩, h.before⟩, h.after⟩, h.larger⟩, h.smaller⟩, h.texts⟩

theorem aspects_eq_empty {v : AspectValues} (h : ∀ a, v.get a = []) : v = {} := by
  cases v with
  | mk sender recipient subject has status =>
    rw [AspectValues.mk.injEq]
    exact ⟨h .sender, h .recipient, h .subject, h .has, h .status⟩

/-- Such a query is the empty one, but for the durations and the terms that are shown with it. -/
theorem AsksNothing.eq {q : ParsedQuery} (h : q.AsksNothing) :
    q = { olderThan := q.olderThan, newerThan := q.newerThan, ignored := q.ignored } := by
  have hwanted := aspects_eq_empty fun a => h.side a false
  have hunwanted := aspects_eq_empty fun a => h.side a true
  cases q
  rw [ParsedQuery.mk.injEq]
  exact ⟨hwanted, hunwanted, h.cc, h.bcc, h.folders, h.labels, h.filenames, h.before, h.after, rfl,
    rfl, h.larger, h.smaller, h.texts, rfl⟩

theorem addOnce_ne_nil (value : String) (values : List String) : addOnce value values ≠ [] :=
  List.ne_nil_of_mem (mem_addOnce_iff.mpr (.inl rfl))

/-! ## Steps and runs -/

variable {now : Timestamp} {q q' : ParsedQuery} {tokens : List Token}

/-- A value that suits an operator for points in time stands for one. -/
theorem moment?_ne_none {r : AppliedTerm} (hsuits : r.op.suits now r.value.toList = true)
    (hop : r.op = .before ∨ r.op = .olderThan ∨ r.op = .after ∨ r.op = .newerThan) :
    r.moment? now ≠ none := by
  rcases hop with hop | hop | hop | hop <;>
    simpa [AppliedTerm.moment?, Operator.suits, hop, Option.isSome_iff_ne_none] using hsuits

theorem size?_ne_none {r : AppliedTerm} (hsuits : r.op.suits now r.value.toList = true)
    (hop : r.op = .larger ∨ r.op = .smaller) : r.size? ≠ none := by
  rcases hop with hop | hop <;>
    simpa [AppliedTerm.size?, Operator.suits, hop, Option.isSome_iff_ne_none] using hsuits

/-- An applied term leaves a query that asks for something. -/
theorem Adds.isEmpty_eq_false {r : AppliedTerm} (h : Adds now q r q')
    (hsuits : r.op.suits now r.value.toList = true) : q'.isEmpty = false := by
  rw [← Bool.not_eq_true, isEmpty_iff]
  intro hnothing
  have haspect : ∀ a : Aspect, r.op ≠ a.operator := by
    intro a hop
    have hside := h.side a r.negated
    rw [if_pos hop, if_pos rfl, hnothing.side] at hside
    exact addOnce_ne_nil _ _ hside.symm
  have hlist : ∀ {op : Operator} {values values' : List String},
      values' = (if r.op = op then addOnce r.value values else values) → values' = [] →
        r.op ≠ op := by
    rintro op values _ rfl hnil hop
    rw [if_pos hop] at hnil
    exact addOnce_ne_nil _ _ hnil
  have hbefore := h.before.symm.trans hnothing.before
  have hafter := h.after.symm.trans hnothing.after
  have hlarger := h.larger.symm.trans hnothing.larger
  have hsmaller := h.smaller.symm.trans hnothing.smaller
  cases hop : r.op with
  | sender => exact haspect .sender hop
  | recipient => exact haspect .recipient hop
  | subject => exact haspect .subject hop
  | has => exact haspect .has hop
  | status => exact haspect .status hop
  | cc => exact hlist h.cc hnothing.cc hop
  | bcc => exact hlist h.bcc hnothing.bcc hop
  | folder => exact hlist h.folders hnothing.folders hop
  | label => exact hlist h.labels hnothing.labels hop
  | filename => exact hlist h.filenames hnothing.filenames hop
  | before | olderThan =>
    rw [if_pos (by simp [hop])] at hbefore
    exact moment?_ne_none hsuits (by simp [hop]) hbefore
  | after | newerThan =>
    rw [if_pos (by simp [hop])] at hafter
    exact moment?_ne_none hsuits (by simp [hop]) hafter
  | larger =>
    rw [if_pos hop] at hlarger
    exact size?_ne_none hsuits (.inl hop) hlarger
  | smaller =>
    rw [if_pos hop] at hsmaller
    exact size?_ne_none hsuits (.inr hop) hsmaller

/-- A run asks for something as soon as one of its terms is applied. -/
theorem isEmpty_foldl_iff : (tokens.foldl (step now) q).isEmpty = true ↔
    q.isEmpty = true ∧ ∀ t ∈ tokens, t.applied? now = none := by
  induction tokens generalizing q with
  | nil => simp
  | cons t ts ih =>
    rw [List.foldl_cons, ih, List.forall_mem_cons]
    obtain ⟨r, hr, -, h⟩ | ⟨hr, -, h⟩ | ⟨hr, -, h⟩ := step_cases now q t
    · obtain ⟨content, _, _, -, -, hvalue, -, hsuits⟩ := Token.exists_of_applied? hr
      have hempty := h.isEmpty_eq_false (by rwa [hvalue, String.toList_ofList])
      simp [hempty, hr]
    · rw [h, hr, eq_self, true_and]
      rfl
    · rw [h, hr, eq_self, true_and]

/-- The terms of a query leave its texts alone. -/
theorem texts_foldl (now : Timestamp) (tokens : List Token) (q : ParsedQuery) :
    (tokens.foldl (step now) q).texts = q.texts := by
  induction tokens generalizing q with
  | nil => rfl
  | cons t ts ih =>
    rw [List.foldl_cons, ih]
    obtain ⟨r, -, -, h⟩ | ⟨-, -, h⟩ | ⟨-, -, h⟩ := step_cases now q t
    · exact h.texts
    · rw [h]
    · rw [h]

/-! ## Queries -/

theorem isEmpty_texts_iff {texts : List String} (h : q.texts = []) :
    ({ q with texts := texts } : ParsedQuery).isEmpty = true ↔ q.isEmpty = true ∧ texts = [] := by
  simp [isEmpty, h]

/-- A query asks for nothing exactly if all its tokens were set aside. -/
theorem isEmpty_ofTokens_iff : (ofTokens now tokens).isEmpty = true ↔
    ∀ t ∈ tokens, t.isRejected now = true := by
  rw [ofTokens, isEmpty_texts_iff (texts_foldl now tokens {}), isEmpty_foldl_iff,
    List.append_eq_nil_iff, List.filterMap_eq_nil_iff, List.filterMap_eq_nil_iff]
  simp only [Token.isRejected_iff, forall_and]
  exact and_congr_left fun _ => and_iff_right rfl

/-- The ignored terms are all tokens exactly if each of them was set aside. -/
theorem ignored_ofTokens_iff :
    (ofTokens now tokens).ignored = tokens.map (String.ofList ·.source) ↔
      ∀ t ∈ tokens, t.isRejected now = true := by
  have hignored : (ofTokens now tokens).ignored =
      (tokens.filter (·.isRejected now)).map (String.ofList ·.source) := ignored_foldl now tokens {}
  rw [hignored]
  constructor
  · intro h
    have hlength := congrArg List.length h
    rw [List.length_map, List.length_map] at hlength
    exact List.length_filter_eq_length_iff.mp hlength
  · intro h
    rw [List.filter_eq_self.mpr h]

end ParsedQuery

end MailSearch
