import MailSearch.Query.Parsed

/-!
# What a query keeps of its terms

* `Token.isRejected`: a term is set aside if its value is missing, if its operator cannot be
  negated and is, or if its value does not suit its operator. Every other term makes a
  `AppliedTerm`.
* `ParsedQuery.Adds` and `ParsedQuery.add?_adds`: what one applied term does to each field of a
  query.
* `ParsedQuery.foldl_step`: a field of the query of some tokens comes from their applied terms.
* `ParsedQuery.Keeps` and `ParsedQuery.parse_keeps`: what the query of a text holds, field by
  field, in terms of its applied terms.
-/

namespace MailSearch

open Text Calendar

/-! ## Applied terms -/

/-- The operator that speaks about an aspect. -/
def Aspect.operator : Aspect → Operator
  | .sender => .sender
  | .recipient => .recipient
  | .subject => .subject
  | .has => .has
  | .status => .status

/-- Whether the operator can use the value: a day, a duration that reaches back from `now` within
the calendar, or a size, where it wants one. -/
def Operator.suits (now : Timestamp) (value : List Char) : Operator → Bool
  | .before | .after => (readDay? value).isSome
  | .olderThan | .newerThan => (ParsedQuery.resolveDuration? now value).isSome
  | .larger | .smaller => (readSize? value).isSome
  | _ => true

/-- What an applied term asks for. -/
structure AppliedTerm where
  op : Operator
  negated : Bool
  value : String
  deriving DecidableEq

namespace AppliedTerm

/-- The point in time that a day or a duration stands for. -/
def moment? (now : Timestamp) (r : AppliedTerm) : Option Timestamp :=
  match r.op with
  | .before | .after => readDay? r.value.toList
  | .olderThan | .newerThan => ParsedQuery.resolveDuration? now r.value.toList
  | _ => none

/-- The size that a value stands for. -/
def size? (r : AppliedTerm) : Option UInt64 := readSize? r.value.toList

end AppliedTerm

namespace Token

/-- Whether the token is a term that is set aside: its value is missing, it is negated against its
operator, or its operator cannot use the value. -/
def isRejected (now : Timestamp) : Token → Bool
  | word _ | phrase _ => false
  | term negated _ op value =>
    match value.content? with
    | none => true
    | some content => negated && !op.canNegate || !op.suits now content

/-- What a term asks for, if it is not set aside. -/
def applied? (now : Timestamp) (t : Token) : Option AppliedTerm :=
  match t with
  | word _ | phrase _ => none
  | term negated _ op value =>
    if t.isRejected now then none
    else value.content?.map fun content => ⟨op, negated, String.ofList content⟩

/-- The applied terms among the tokens, in order. -/
def applied (now : Timestamp) (tokens : List Token) : List AppliedTerm :=
  tokens.filterMap (applied? now)

/-- The last applied term with a property. -/
def latest (now : Timestamp) (tokens : List Token) (p : AppliedTerm → Bool) : Option AppliedTerm :=
  ((applied now tokens).filter p).getLast?

/-- The values that the applied terms of an operator name, each once, in order of first mention. -/
def mentioned (now : Timestamp) (tokens : List Token) (op : Operator) : List String :=
  (((applied now tokens).filter (·.op = op)).map (·.value)).eraseDups

/-- An applied term is one of a sign and a value that suit its operator. -/
theorem exists_of_applied? {now : Timestamp} {t : Token} {r : AppliedTerm}
    (h : t.applied? now = some r) :
    ∃ content keyword value, t = .term r.negated keyword r.op value ∧
      value.content? = some content ∧ r.value = String.ofList content ∧
      (r.negated = true → r.op.canNegate = true) ∧ r.op.suits now content = true := by
  cases t with
  | word source => cases h
  | phrase content => cases h
  | term negated keyword op value =>
    cases hvalue : value.content? with
    | none => simp [applied?, hvalue] at h
    | some content =>
      simp only [applied?, isRejected, hvalue, Option.map_some] at h
      split at h
      · cases h
      · rename_i hrejected
        cases h
        exact ⟨content, keyword, value, rfl, hvalue, rfl, by simpa using hrejected⟩

end Token

namespace ParsedQuery

/-! ## One term -/

/-- The values that are wanted, or those that are not. -/
def side (q : ParsedQuery) (negated : Bool) : AspectValues :=
  if negated then q.unwanted else q.wanted

/-- An applied term changes the fields of its operator, and no other. A value goes to the side of
the term and leaves the other one. -/
structure Adds (now : Timestamp) (q : ParsedQuery) (r : AppliedTerm) (q' : ParsedQuery) : Prop where
  side : ∀ (a : Aspect) (negated : Bool), (q'.side negated).get a =
    if r.op = a.operator then
      if r.negated = negated then addOnce r.value ((q.side negated).get a)
      else drop r.value ((q.side negated).get a)
    else (q.side negated).get a
  cc : q'.cc = if r.op = .cc then addOnce r.value q.cc else q.cc
  bcc : q'.bcc = if r.op = .bcc then addOnce r.value q.bcc else q.bcc
  folders : q'.folders = if r.op = .folder then addOnce r.value q.folders else q.folders
  labels : q'.labels = if r.op = .label then addOnce r.value q.labels else q.labels
  filenames : q'.filenames = if r.op = .filename then addOnce r.value q.filenames else q.filenames
  before : q'.before = if r.op = .before ∨ r.op = .olderThan then r.moment? now else q.before
  after : q'.after = if r.op = .after ∨ r.op = .newerThan then r.moment? now else q.after
  olderThan : q'.olderThan = if r.op = .olderThan then some r.value else q.olderThan
  newerThan : q'.newerThan = if r.op = .newerThan then some r.value else q.newerThan
  larger : q'.larger = if r.op = .larger then r.size? else q.larger
  smaller : q'.smaller = if r.op = .smaller then r.size? else q.smaller
  texts : q'.texts = q.texts
  ignored : q'.ignored = q.ignored

theorem get_modify (v : AspectValues) (change : List String → List String) (a b : Aspect) :
    (v.modify change a).get b = if a = b then change (v.get b) else v.get b := by
  cases a <;> cases b <;> rfl

theorem operator_inj {a b : Aspect} : a.operator = b.operator ↔ a = b := by
  cases a <;> cases b <;> decide

theorem addAspect_adds (now : Timestamp) (q : ParsedQuery) (a : Aspect) (negated : Bool)
    (value : String) :
    Adds now q ⟨a.operator, negated, value⟩ (q.addAspect a negated value) := by
  constructor
  case side =>
    intro b side
    cases negated <;> cases side <;>
      simp [addAspect, ParsedQuery.side, get_modify, operator_inj]
  all_goals cases a <;> cases negated <;> rfl

/-- A term that can be applied does what applied terms do. -/
theorem add?_adds {now : Timestamp} {q q' : ParsedQuery} {op : Operator} {negated : Bool}
    {value : List Char} (h : q.add? now op negated value = some q') :
    Adds now q ⟨op, negated, String.ofList value⟩ q' := by
  unfold add? at h
  simp only at h
  split at h
  · cases h
  · cases op with
    | sender =>
      cases h
      exact addAspect_adds now q .sender negated _
    | recipient =>
      cases h
      exact addAspect_adds now q .recipient negated _
    | subject =>
      cases h
      exact addAspect_adds now q .subject negated _
    | has =>
      cases h
      exact addAspect_adds now q .has negated _
    | status =>
      cases h
      exact addAspect_adds now q .status negated _
    | cc | bcc | folder | label | filename =>
      cases h
      constructor
      case side =>
        intro a _
        cases a <;> rfl
      all_goals rfl
    | before | after | olderThan | newerThan | larger | smaller =>
      obtain ⟨x, hx, h⟩ := Option.map_eq_some_iff.mp h
      cases h
      constructor
      case side =>
        intro a _
        cases a <;> rfl
      all_goals simp [AppliedTerm.moment?, AppliedTerm.size?, hx]

/-- A term is applied if its sign and its value suit its operator. -/
theorem add?_eq_none_iff {now : Timestamp} {q : ParsedQuery} {op : Operator} {negated : Bool}
    {value : List Char} :
    q.add? now op negated value = none ↔
      (negated && !op.canNegate || !op.suits now value) = true := by
  cases hgate : negated && !op.canNegate with
  | true => simp [add?, hgate]
  | false =>
    simp only [add?, hgate]
    cases op <;> simp [Operator.suits]

/-- A token is a term that is applied, or one that is set aside, or no term at all. -/
theorem step_cases (now : Timestamp) (q : ParsedQuery) (t : Token) :
    (∃ r, t.applied? now = some r ∧ t.isRejected now = false ∧ Adds now q r (q.step now t)) ∨
    (t.applied? now = none ∧ t.isRejected now = true ∧
      q.step now t = { q with ignored := q.ignored ++ [String.ofList t.source] }) ∨
    (t.applied? now = none ∧ t.isRejected now = false ∧ q.step now t = q) := by
  cases t with
  | word source => exact .inr (.inr ⟨rfl, rfl, rfl⟩)
  | phrase content => exact .inr (.inr ⟨rfl, rfl, rfl⟩)
  | term negated keyword op value =>
    cases hvalue : value.content? with
    | none =>
      refine .inr (.inl ⟨?_, ?_, ?_⟩) <;> simp [Token.applied?, Token.isRejected, step, hvalue]
    | some content =>
      cases hadd : q.add? now op negated content with
      | none =>
        have hrejected := add?_eq_none_iff.mp hadd
        refine .inr (.inl ⟨?_, ?_, ?_⟩) <;>
          simp [Token.applied?, Token.isRejected, step, hvalue, hadd, hrejected]
      | some q' =>
        have hrejected : (negated && !op.canNegate || !op.suits now content) = false := by
          rw [← Bool.not_eq_true, ← add?_eq_none_iff (q := q), hadd]
          simp
        refine .inl ⟨⟨op, negated, String.ofList content⟩, ?_, ?_, ?_⟩
        · simp [Token.applied?, Token.isRejected, hvalue, hrejected]
        · simp [Token.isRejected, hvalue, hrejected]
        · simpa [step, hvalue, hadd] using add?_adds hadd

/-! ## All terms -/

/-- A field that applied terms alone change is what those among the tokens make of it. -/
theorem foldl_step {α : Type} {now : Timestamp} (view : ParsedQuery → α)
    (update : α → AppliedTerm → α)
    (hadds : ∀ {q r q'}, Adds now q r q' → view q' = update (view q) r)
    (hignored : ∀ q ignored, view { q with ignored := ignored } = view q) (tokens : List Token)
    (q : ParsedQuery) :
    view (tokens.foldl (step now) q) = (Token.applied now tokens).foldl update (view q) := by
  unfold Token.applied
  induction tokens generalizing q with
  | nil => rfl
  | cons t ts ih =>
    rw [List.foldl_cons, ih]
    obtain ⟨r, hr, -, h⟩ | ⟨hr, -, h⟩ | ⟨hr, -, h⟩ := step_cases now q t
    · rw [List.filterMap_cons_some hr, List.foldl_cons, hadds h]
    · rw [List.filterMap_cons_none hr, h, hignored]
    · rw [List.filterMap_cons_none hr, h]

/-- The terms that are set aside are kept as written, in order. -/
theorem ignored_foldl (now : Timestamp) (tokens : List Token) (q : ParsedQuery) :
    (tokens.foldl (step now) q).ignored =
      q.ignored ++ (tokens.filter (·.isRejected now)).map (String.ofList ·.source) := by
  induction tokens generalizing q with
  | nil => simp
  | cons t ts ih =>
    rw [List.foldl_cons, ih]
    obtain ⟨r, -, hrej, h⟩ | ⟨-, hrej, h⟩ | ⟨-, hrej, h⟩ := step_cases now q t
    · simp [hrej, h.ignored]
    · simp [hrej, h]
    · simp [hrej, h]

theorem add?_ignored (now : Timestamp) (q : ParsedQuery) (op : Operator) (negated : Bool)
    (value : List Char) (ignored : List String) :
    add? now { q with ignored := ignored } op negated value =
      (q.add? now op negated value).map fun q' => { q' with ignored := ignored } := by
  unfold add?
  simp only
  split
  · rfl
  · cases op with
    | sender | recipient | subject | has | status => cases negated <;> rfl
    | cc | bcc | folder | label | filename => rfl
    | before | after | olderThan | newerThan | larger | smaller => rw [Option.map_map]; rfl

/-- A token that is not set aside does the same whatever was set aside before it. -/
theorem step_ignored {now : Timestamp} {t : Token} (h : t.isRejected now = false) (q : ParsedQuery)
    (ignored : List String) :
    step now { q with ignored := ignored } t = { q.step now t with ignored := ignored } := by
  cases t with
  | word source => rfl
  | phrase content => rfl
  | term negated keyword op value =>
    cases hvalue : value.content? with
    | none => simp [Token.isRejected, hvalue] at h
    | some content =>
      cases hadd : q.add? now op negated content with
      | none =>
        rw [add?_eq_none_iff] at hadd
        simp only [Token.isRejected, hvalue] at h
        rw [h] at hadd
        cases hadd
      | some q' => simp [step, hvalue, add?_ignored, hadd]

/-- What is set aside leaves no other trace. -/
theorem foldl_step_filter (now : Timestamp) (tokens : List Token) (q : ParsedQuery) :
    (tokens.filter fun t => !t.isRejected now).foldl (step now) { q with ignored := [] } =
      { tokens.foldl (step now) q with ignored := [] } := by
  induction tokens generalizing q with
  | nil => rfl
  | cons t ts ih =>
    cases h : t.isRejected now with
    | true =>
      obtain ⟨-, -, hrej, -⟩ | ⟨-, -, hstep⟩ | ⟨-, hrej, -⟩ := step_cases now q t
      · rw [h] at hrej
        cases hrej
      · rw [List.filter_cons_of_neg (by simp [h]), List.foldl_cons, hstep, ← ih]
      · rw [h] at hrej
        cases hrej
    | false =>
      rw [List.filter_cons_of_pos (by simp [h]), List.foldl_cons, List.foldl_cons,
        step_ignored h, ih]

/-- No term is text, so leaving some out loses none. -/
theorem filterMap_filter_not_isRejected {now : Timestamp} {text? : Token → Option String}
    (hterm : ∀ negated keyword op value, text? (.term negated keyword op value) = none)
    (tokens : List Token) :
    (tokens.filter fun t => !t.isRejected now).filterMap text? = tokens.filterMap text? := by
  rw [List.filterMap_filter]
  congr 1
  funext t
  cases t with
  | word source => rfl
  | phrase content => rfl
  | term negated keyword op value => rw [hterm, ite_self]

/-- Without the terms that are set aside, the query is the same but for their list. -/
theorem ofTokens_filter (now : Timestamp) (tokens : List Token) :
    ofTokens now (tokens.filter fun t => !t.isRejected now) =
      { ofTokens now tokens with ignored := [] } := by
  have hphrases : (tokens.filter fun t => !t.isRejected now).filterMap phraseText? =
      tokens.filterMap phraseText? :=
    filterMap_filter_not_isRejected (fun _ _ _ _ => rfl) tokens
  have hwords : (tokens.filter fun t => !t.isRejected now).filterMap wordText? =
      tokens.filterMap wordText? :=
    filterMap_filter_not_isRejected (fun _ _ _ _ => rfl) tokens
  have hfold := foldl_step_filter now tokens {}
  simp only [ofTokens, hphrases, hwords]
  rw [show ({} : ParsedQuery) = { ({} : ParsedQuery) with ignored := [] } from rfl, hfold]

/-! ## Lists of applied terms -/

/-- What each term with a property sets anew is in the end what the last one sets. -/
theorem foldl_latest {α : Type} (p : AppliedTerm → Prop) [DecidablePred p] (set : AppliedTerm → α)
    (rs : List AppliedTerm) (start : α) :
    rs.foldl (fun x r => if p r then set r else x) start =
      ((rs.filter p).getLast?.map set).getD start := by
  induction rs generalizing start with
  | nil => rfl
  | cons r rs ih =>
    rw [List.foldl_cons, ih]
    by_cases h : p r
    · rw [if_pos h, List.filter_cons_of_pos (by simpa using h), List.getLast?_cons]
      cases (rs.filter p).getLast? <;> rfl
    · rw [if_neg h, List.filter_cons_of_neg (by simpa using h)]

theorem eraseDups_concat (values : List String) (value : String) :
    (values ++ [value]).eraseDups = addOnce value values.eraseDups := by
  rw [List.eraseDups_append, addOnce]
  by_cases h : value ∈ values <;> simp [List.removeAll, h, List.eraseDups_cons]

/-- Values that are each added once, after some others, stand in order of first mention. -/
theorem foldl_addOnce (op : Operator) (rs : List AppliedTerm) (values : List String) :
    rs.foldl (fun values r => if r.op = op then addOnce r.value values else values)
        values.eraseDups =
      (values ++ (rs.filter (·.op = op)).map (·.value)).eraseDups := by
  induction rs generalizing values with
  | nil => simp
  | cons r rs ih =>
    rw [List.foldl_cons]
    by_cases h : r.op = op
    · rw [if_pos h, ← eraseDups_concat, ih, List.filter_cons_of_pos (by simpa using h),
        List.map_cons, List.append_assoc, List.singleton_append]
    · rw [if_neg h, ih, List.filter_cons_of_neg (by simpa using h)]

/-- The values on one side of an operator after one more term. -/
def moved (op : Operator) (negated : Bool) (values : List String) (r : AppliedTerm) : List String :=
  if r.op = op then
    if r.negated = negated then addOnce r.value values else drop r.value values
  else values

theorem nodup_addOnce {values : List String} (h : values.Nodup) (value : String) :
    (addOnce value values).Nodup := by
  unfold addOnce
  split
  · exact h
  · rename_i hmem
    refine List.nodup_append.mpr ⟨h, by simp, ?_⟩
    simpa using fun v hv => ne_of_mem_of_not_mem hv hmem

theorem mem_addOnce_iff {v value : String} {values : List String} :
    v ∈ addOnce value values ↔ v = value ∨ v ∈ values := by
  unfold addOnce
  split
  · rename_i hmem
    exact ⟨.inr, fun h => h.elim (fun h => h ▸ hmem) id⟩
  · simp [or_comm]

theorem mem_drop_iff {v value : String} {values : List String} :
    v ∈ drop value values ↔ v ≠ value ∧ v ∈ values := by
  simp [drop, and_comm]

theorem nodup_moved {values : List String} (h : values.Nodup) (op : Operator) (negated : Bool)
    (r : AppliedTerm) : (moved op negated values r).Nodup := by
  unfold moved
  split
  · split
    · exact nodup_addOnce h _
    · exact h.filter _
  · exact h

theorem nodup_foldl_moved (op : Operator) (negated : Bool) (rs : List AppliedTerm)
    {values : List String} (h : values.Nodup) : (rs.foldl (moved op negated) values).Nodup := by
  induction rs generalizing values with
  | nil => exact h
  | cons r rs ih => exact ih (nodup_moved h op negated r)

/-- A term that names a value decides on which side it is, and leaves other values where they
are. -/
theorem mem_moved {op : Operator} {negated : Bool} {values : List String} {r : AppliedTerm}
    {v : String} : v ∈ moved op negated values r ↔
      if r.op = op ∧ r.value = v then r.negated = negated else v ∈ values := by
  unfold moved
  by_cases hop : r.op = op
  · by_cases hvalue : r.value = v
    · by_cases hside : r.negated = negated <;>
        simp [hop, hvalue, hside, mem_addOnce_iff, mem_drop_iff]
    · have hne : v ≠ r.value := Ne.symm hvalue
      by_cases hside : r.negated = negated <;>
        simp [hop, hvalue, hne, hside, mem_addOnce_iff, mem_drop_iff]
  · simp [hop]

/-- A value is on the side of the last term that names it. -/
theorem mem_foldl_moved {op : Operator} {negated : Bool} {rs : List AppliedTerm} {v : String} :
    v ∈ rs.foldl (moved op negated) [] ↔
      (rs.filter fun r => r.op = op ∧ r.value = v).getLast?.map (·.negated) = some negated := by
  have hfold : (v ∈ rs.foldl (moved op negated) []) =
      rs.foldl (fun on r => if r.op = op ∧ r.value = v then r.negated = negated else on)
        (v ∈ ([] : List String)) :=
    (List.foldl_hom (fun values => v ∈ values) fun _ _ => (propext mem_moved).symm).symm
  rw [hfold, foldl_latest]
  cases (rs.filter fun r => r.op = op ∧ r.value = v).getLast? <;> simp

/-! ## The query of a text -/

/-- What a query holds of the tokens that it was made from. -/
structure Keeps (now : Timestamp) (tokens : List Token) (q : ParsedQuery) : Prop where
  /-- No side of an aspect lists a value twice. -/
  nodup : ∀ (a : Aspect) (negated : Bool), ((q.side negated).get a).Nodup
  /-- No value is on both sides of an aspect. -/
  disjoint : ∀ (a : Aspect) (v : String), v ∈ q.wanted.get a → v ∉ q.unwanted.get a
  /-- A value is wanted if the last applied term for it is plain. -/
  wanted : ∀ (a : Aspect) (v : String), v ∈ q.wanted.get a ↔
    (Token.latest now tokens fun r => r.op = a.operator ∧ r.value = v).map (·.negated) = some false
  /-- A value is unwanted if the last applied term for it is negated. -/
  unwanted : ∀ (a : Aspect) (v : String), v ∈ q.unwanted.get a ↔
    (Token.latest now tokens fun r => r.op = a.operator ∧ r.value = v).map (·.negated) = some true
  cc : q.cc = Token.mentioned now tokens .cc
  bcc : q.bcc = Token.mentioned now tokens .bcc
  folders : q.folders = Token.mentioned now tokens .folder
  labels : q.labels = Token.mentioned now tokens .label
  filenames : q.filenames = Token.mentioned now tokens .filename
  before : q.before =
    (Token.latest now tokens fun r => r.op = .before ∨ r.op = .olderThan).bind (·.moment? now)
  after : q.after =
    (Token.latest now tokens fun r => r.op = .after ∨ r.op = .newerThan).bind (·.moment? now)
  olderThan : q.olderThan = (Token.latest now tokens (·.op = .olderThan)).map (·.value)
  newerThan : q.newerThan = (Token.latest now tokens (·.op = .newerThan)).map (·.value)
  larger : q.larger = (Token.latest now tokens (·.op = .larger)).bind (·.size?)
  smaller : q.smaller = (Token.latest now tokens (·.op = .smaller)).bind (·.size?)
  /-- What is set aside is listed as written, in order. -/
  ignored : q.ignored = (tokens.filter (·.isRejected now)).map (String.ofList ·.source)
  /-- What is set aside changes nothing else: without it, the query is the same. -/
  unaffected : ofTokens now (tokens.filter fun t => !t.isRejected now) = { q with ignored := [] }

/-- One side of an aspect after all tokens. -/
theorem side_ofTokens (now : Timestamp) (tokens : List Token) (a : Aspect) (negated : Bool) :
    ((ofTokens now tokens).side negated).get a =
      (Token.applied now tokens).foldl (moved a.operator negated) [] := by
  have hfold := foldl_step (fun q => (q.side negated).get a) (moved a.operator negated)
    (fun {_ _ _} (h : Adds now _ _ _) => h.side a negated)
    (fun _ _ => by cases negated <;> rfl) tokens {}
  have htexts : (ofTokens now tokens).side negated = (tokens.foldl (step now) {}).side negated := by
    cases negated <;> rfl
  rw [htexts, hfold]
  cases a <;> cases negated <;> rfl

/-- A value is on the side of the last applied term that names it. -/
theorem mem_side_ofTokens (now : Timestamp) (tokens : List Token) (a : Aspect) (negated : Bool)
    (v : String) : v ∈ ((ofTokens now tokens).side negated).get a ↔
      (Token.latest now tokens fun r => r.op = a.operator ∧ r.value = v).map (·.negated) =
        some negated := by
  rw [side_ofTokens]
  exact mem_foldl_moved

/-- A list of values, each added once, after all tokens. -/
theorem mentioned_foldl {now : Timestamp} {view : ParsedQuery → List String} {op : Operator}
    (hadds : ∀ {q r q'}, Adds now q r q' →
      view q' = if r.op = op then addOnce r.value (view q) else view q)
    (hignored : ∀ q ignored, view { q with ignored := ignored } = view q) (hempty : view {} = [])
    (tokens : List Token) :
    view (tokens.foldl (step now) {}) = Token.mentioned now tokens op := by
  rw [foldl_step view (fun values r => if r.op = op then addOnce r.value values else values)
    hadds hignored, hempty]
  exact foldl_addOnce op _ []

/-- A bound that each term of its operators sets anew, after all tokens. -/
theorem latest_foldl {α : Type} {now : Timestamp} {view : ParsedQuery → Option α}
    {p : AppliedTerm → Prop} [DecidablePred p] {set : AppliedTerm → Option α}
    (hadds : ∀ {q r q'}, Adds now q r q' → view q' = if p r then set r else view q)
    (hignored : ∀ q ignored, view { q with ignored := ignored } = view q) (hempty : view {} = none)
    (tokens : List Token) :
    view (tokens.foldl (step now) {}) = (Token.latest now tokens p).bind set := by
  rw [foldl_step view (fun x r => if p r then set r else x) hadds hignored, hempty, foldl_latest]
  unfold Token.latest
  cases ((Token.applied now tokens).filter p).getLast? <;> rfl

/-- **What a query keeps.** For every text, the query holds of each aspect the values whose last
term is on that side, once each; of every other list the values in order of first mention; of each
bound what its last term resolves to; and of the terms that were set aside their text alone. -/
theorem parse_keeps (now : Timestamp) (query : String) :
    Keeps now (Token.scan query.toList) (parse now query) := by
  generalize htokens : Token.scan query.toList = tokens
  rw [parse, htokens]
  constructor
  case nodup =>
    intro a negated
    rw [side_ofTokens]
    exact nodup_foldl_moved _ _ _ List.nodup_nil
  case disjoint =>
    intro a v hwanted hunwanted
    have hplain := (mem_side_ofTokens now tokens a false v).mp hwanted
    have hnegated := (mem_side_ofTokens now tokens a true v).mp hunwanted
    rw [hplain] at hnegated
    cases hnegated
  case wanted => exact fun a v => mem_side_ofTokens now tokens a false v
  case unwanted => exact fun a v => mem_side_ofTokens now tokens a true v
  case cc => exact mentioned_foldl (fun h => h.cc) (fun _ _ => rfl) rfl tokens
  case bcc => exact mentioned_foldl (fun h => h.bcc) (fun _ _ => rfl) rfl tokens
  case folders => exact mentioned_foldl (fun h => h.folders) (fun _ _ => rfl) rfl tokens
  case labels => exact mentioned_foldl (fun h => h.labels) (fun _ _ => rfl) rfl tokens
  case filenames => exact mentioned_foldl (fun h => h.filenames) (fun _ _ => rfl) rfl tokens
  case before => exact latest_foldl (fun h => h.before) (fun _ _ => rfl) rfl tokens
  case after => exact latest_foldl (fun h => h.after) (fun _ _ => rfl) rfl tokens
  case olderThan =>
    rw [Option.map_eq_bind]
    exact latest_foldl (fun h => h.olderThan) (fun _ _ => rfl) rfl tokens
  case newerThan =>
    rw [Option.map_eq_bind]
    exact latest_foldl (fun h => h.newerThan) (fun _ _ => rfl) rfl tokens
  case larger => exact latest_foldl (fun h => h.larger) (fun _ _ => rfl) rfl tokens
  case smaller => exact latest_foldl (fun h => h.smaller) (fun _ _ => rfl) rfl tokens
  case ignored => exact ignored_foldl now tokens {}
  case unaffected => exact ofTokens_filter now tokens

end ParsedQuery

end MailSearch
