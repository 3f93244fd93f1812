import MailSearch.Proofs.Clause.Marks

/-!
# What clauses say of values

* `PredicateSet.spelled`: the condition that a set stands for, written out with every value in its
  place. `PredicateSet.bind_clause`: the text and the parameters of the set's clause make it.
* `PredicateSet.SameShape`: two sets differ in their values only. `PredicateSet.SameShape.text_eq`:
  their clauses have one text.
* `PredicateSet.clause_keeps_values_apart`: both for every set, with the owner in the first place.
-/

namespace MailSearch

/-! ## The condition written out -/

namespace Statement

/-- An operand is one of the values. -/
def oneOf (operand : String) (values : List Param) : Statement :=
  plain (operand ++ " IN ") ++ listed ", " (values.map value)

/-- An operand contains the needle, case aside. -/
def likeNeedle (operand needle : String) : Statement :=
  plain ("mailsift_fold(" ++ operand ++ ") LIKE ") ++
    (value (.text (foldedPattern needle)) ++ plain " ESCAPE '\\'")

/-- An operand contains one of the needles, case aside. -/
def likeAny (operand : String) (needles : List String) : Statement :=
  listed " OR " (needles.map (likeNeedle operand))

/-- One of the columns that free text is looked for in contains the term, case aside. -/
def likeTerm (term : String) : Statement := listed " OR "
  [likeNeedle "COALESCE(m.subject, '')" term, likeNeedle "COALESCE(m.body_text, '')" term,
    likeNeedle "COALESCE(m.body_html, '')" term, likeNeedle "COALESCE(m.from_address, '')" term]

/-- An operand is one of the values, case aside. -/
def foldedOneOf (operand : String) (values : List String) : Statement :=
  oneOf ("mailsift_fold(" ++ operand ++ ")") (values.map fun v => .text (Text.fold v))

/-- A time is compared with a bound, if there is one. -/
def bound (comparison : String) (t : Option Calendar.Timestamp) : List Statement :=
  (t.map fun t => plain comparison ++ value (.text t.stored)).toList

/-- An item of a list satisfies a condition. -/
def someItem (column item : String) (condition : Statement) : Statement :=
  plain ("EXISTS (SELECT 1 FROM json_each(COALESCE(" ++ column ++ ", '[]')) " ++ item ++
    " WHERE ") ++ (condition ++ plain ")")

/-- An attachment satisfies a condition. -/
def someAttachment (condition : Statement) : Statement :=
  plain "EXISTS (SELECT 1 FROM attachments a WHERE a.message_id = m.id AND " ++
    (condition ++ plain ")")

/-- A condition, negated or not. -/
def negatedIf (negated : Bool) (condition : Statement) : Statement :=
  if negated then plain "NOT " ++ condition else condition

end Statement

open Statement

/-- The column of a mark in SQL. -/
def MessageFlag.operand : MessageFlag → String
  | read => "m.is_read"
  | starred => "m.is_starred"
  | important => "m.is_important"

/-- The condition that a predicate stands for. -/
def Predicate.spelled : Predicate → Statement
  | ownedBy userId => plain "m.user_id = " ++ value (.text userId)
  | inAccounts accountIds => oneOf "m.account_id" (accountIds.map Param.text)
  | addressContains .sender needles negated =>
    negatedIf negated (likeAny "COALESCE(m.from_address, '')" needles)
  | addressContains .recipient needles negated =>
    negatedIf negated (someItem "m.to_addresses" "j" (likeAny "j.value" needles))
  | addressContains .cc needles negated =>
    negatedIf negated (someItem "m.cc_addresses" "j" (likeAny "j.value" needles))
  | addressContains .bcc needles negated =>
    negatedIf negated (someItem "m.bcc_addresses" "j" (likeAny "j.value" needles))
  | subjectContains needles negated =>
    negatedIf negated (likeAny "COALESCE(m.subject, '')" needles)
  | flagIs flag expected =>
    plain (flag.operand ++ " = ") ++ value (.integer (if expected then 1 else 0))
  | attachmentExists expected =>
    negatedIf (!expected) (plain "EXISTS (SELECT 1 FROM attachments a WHERE a.message_id = m.id)")
  | attachmentNamed needles => someAttachment (likeAny "a.filename" needles)
  | attachmentSized .larger bytes =>
    someAttachment (plain "a.size_bytes > " ++ value (sizeParam bytes))
  | attachmentSized .smaller bytes =>
    someAttachment (plain "a.size_bytes < " ++ value (sizeParam bytes))
  | sentWithin after before =>
    if after.isNone && before.isNone then plain "1 = 1"
    else listed " AND " (bound "m.sent_at >= " after ++ bound "m.sent_at <= " before)
  | inFolders folders => foldedOneOf "COALESCE(m.folder, '')" folders
  | labelled labels => someItem "m.labels" "l" (foldedOneOf "l.value" labels)
  | mentions terms => listed " AND " (terms.map likeTerm)

/-- The condition that a set stands for. -/
def PredicateSet.spelled (s : PredicateSet) : Statement :=
  List.intercalate (plain " AND ") (s.toList.map Predicate.spelled)

/-! ### Its text and parameters -/

theorem filled_sql_cons (s : String) (pieces : List Piece) :
    (Piece.sql s :: pieces).flatMap Piece.filled = plain s ++ pieces.flatMap Piece.filled := rfl

theorem filled_paramList (values : List Param) :
    (paramList values).flatMap Piece.filled = listed ", " (values.map value) :=
  Piece.filled_listed ..

theorem filled_foldedLike (operand : Operand) (needle : String) :
    (Test.foldedLike operand (foldedPattern needle)).pieces.flatMap Piece.filled =
      likeNeedle operand.text needle := by
  rw [Test.pieces, filled_sql_cons, Operand.foldedText, String.append_assoc]
  rfl

theorem filled_containsAny (operand : Operand) (needles : List String) :
    (Choice.containsAny operand needles).pieces.flatMap Piece.filled =
      likeAny operand.text needles := by
  rw [Choice.containsAny, Choice.pieces, List.map_map, Piece.filled_listed]
  exact congrArg (listed " OR ") (List.map_congr_left fun needle _ => filled_foldedLike ..)

theorem filled_oneOf (operand : String) (values : List Param) :
    (Piece.sql (operand ++ " IN ") :: paramList values).flatMap Piece.filled =
      Statement.oneOf operand values := by
  rw [filled_sql_cons, filled_paramList]
  rfl

theorem filled_isAny (operand : Operand) (values : List String) :
    (Test.isAny operand values).pieces.flatMap Piece.filled =
      foldedOneOf operand.text values := by
  rw [Test.isAny, Test.pieces, filled_oneOf, List.map_map]
  rfl

theorem filled_mentions (term : String) :
    (Choice.mentions term).pieces.flatMap Piece.filled = likeTerm term := by
  rw [Choice.mentions, Choice.pieces, List.map_map, Piece.filled_listed]
  exact congrArg (listed " OR ")
    (List.map_congr_left fun c _ => filled_foldedLike (.orEmpty c) term)

theorem filled_sentWithin (after before : Option Calendar.Timestamp) :
    (Body.sentWithin after before).pieces.flatMap Piece.filled =
      (Predicate.sentWithin after before).spelled := by
  cases after <;> cases before
  · rfl
  all_goals exact Piece.filled_listed " AND " ..

theorem filled_negated (negated : Bool) (scope : Scope) :
    (Condition.mk negated scope).pieces.flatMap Piece.filled =
      negatedIf negated (scope.pieces.flatMap Piece.filled) := by
  cases negated <;> rfl

theorem filled_someAttachment (body : Body) :
    (Scope.someAttachment (some body)).pieces.flatMap Piece.filled =
      Statement.someAttachment (body.pieces.flatMap Piece.filled) := by
  rw [Scope.pieces, filled_sql_cons, List.flatMap_append]
  rfl

theorem filled_someItem (list : ListColumn) (body : Body) :
    (Scope.someItem list body).pieces.flatMap Piece.filled =
      Statement.someItem ("m." ++ list.column.name) list.itemName
        (body.pieces.flatMap Piece.filled) := by
  rw [Scope.pieces, filled_sql_cons, List.flatMap_append]
  rfl

/-- What a predicate becomes in a clause is the condition that it stands for. -/
theorem Predicate.filled_condition (p : Predicate) :
    p.condition.pieces.flatMap Piece.filled = p.spelled := by
  cases p with
  | ownedBy userId => rfl
  | inAccounts accountIds => exact filled_oneOf ..
  | addressContains field needles negated =>
    rw [condition, filled_negated]
    cases field with
    | sender => exact congrArg _ (filled_containsAny ..)
    | recipient | cc | bcc =>
      rw [Scope.addressContains, filled_someItem]
      exact congrArg (fun s => negatedIf negated (Statement.someItem _ _ s)) (filled_containsAny ..)
  | subjectContains needles negated =>
    rw [condition, filled_negated]
    exact congrArg _ (filled_containsAny ..)
  | flagIs flag expected => cases flag <;> rfl
  | attachmentExists expected => cases expected <;> rfl
  | attachmentNamed needles =>
    exact (filled_someAttachment _).trans (congrArg _ (filled_containsAny ..))
  | attachmentSized side bytes => cases side <;> rfl
  | sentWithin after before => exact filled_sentWithin ..
  | inFolders folders => exact filled_isAny ..
  | labelled labels =>
    exact (filled_someItem ..).trans (congrArg _ (filled_isAny ..))
  | mentions terms =>
    rw [condition, filled_negated, Scope.pieces, Body.pieces, List.map_map, Piece.filled_listed]
    exact congrArg (listed " AND ") (List.map_congr_left fun term _ => filled_mentions term)

/-- The marks of a clause's text take its parameters, and make the condition that the set stands
for. -/
theorem PredicateSet.bind_clause (s : PredicateSet) :
    bindMarks s.clause.text.toList s.clause.params = some s.spelled := by
  have hfilled : s.clause.pieces.flatMap Piece.filled = s.spelled := by
    rw [Clause.pieces, clause, Piece.filled_joined, List.map_map, List.map_map]
    exact congrArg _ (List.map_congr_left fun p _ => p.filled_condition)
  rw [Clause.bindMarks_text s.clause (List.cons_ne_nil _ _), hfilled]

/-! ## Sets of one shape -/

/-- Two predicates differ in their values only. Lists of values have one length. -/
inductive Predicate.SameShape : Predicate → Predicate → Prop where
  | ownedBy (a b : String) : SameShape (.ownedBy a) (.ownedBy b)
  | inAccounts {as bs : List String} (h : as.length = bs.length) :
    SameShape (.inAccounts as) (.inAccounts bs)
  | addressContains (field : AddressField) {as bs : List String} (negated : Bool)
    (h : as.length = bs.length) :
    SameShape (.addressContains field as negated) (.addressContains field bs negated)
  | subjectContains {as bs : List String} (negated : Bool) (h : as.length = bs.length) :
    SameShape (.subjectContains as negated) (.subjectContains bs negated)
  | flagIs (flag : MessageFlag) (a b : Bool) : SameShape (.flagIs flag a) (.flagIs flag b)
  | attachmentExists (expected : Bool) :
    SameShape (.attachmentExists expected) (.attachmentExists expected)
  | attachmentNamed {as bs : List String} (h : as.length = bs.length) :
    SameShape (.attachmentNamed as) (.attachmentNamed bs)
  | attachmentSized (side : SizeSide) (a b : UInt64) :
    SameShape (.attachmentSized side a) (.attachmentSized side b)
  | sentWithin {after before after' before' : Option Calendar.Timestamp}
    (hafter : after.isSome = after'.isSome) (hbefore : before.isSome = before'.isSome) :
    SameShape (.sentWithin after before) (.sentWithin after' before')
  | inFolders {as bs : List String} (h : as.length = bs.length) :
    SameShape (.inFolders as) (.inFolders bs)
  | labelled {as bs : List String} (h : as.length = bs.length) :
    SameShape (.labelled as) (.labelled bs)
  | mentions {as bs : List String} (h : as.length = bs.length) :
    SameShape (.mentions as) (.mentions bs)

namespace Statement

/-- Parts that leave one text, however many there are, tell of their number only. -/
theorem map_marked {α : Type} {make : α → Statement} {text : List Char}
    (h : ∀ x, marked (make x) = text) (l : List α) :
    (l.map make).map marked = List.replicate l.length text := by
  rw [List.map_map, List.eq_replicate_iff]
  refine ⟨List.length_map _, fun cs hcs => ?_⟩
  obtain ⟨x, -, rfl⟩ := List.mem_map.mp hcs
  exact h x

theorem marked_likeNeedle (operand a b : String) :
    marked (likeNeedle operand a) = marked (likeNeedle operand b) := by
  simp only [likeNeedle, marked_append, marked_plain, marked_value]

theorem marked_likeAny {as bs : List String} (h : as.length = bs.length) (operand : String) :
    marked (likeAny operand as) = marked (likeAny operand bs) := by
  have hneedle (needle : String) := marked_likeNeedle operand needle ""
  rw [likeAny, likeAny, marked_listed, marked_listed, map_marked hneedle, map_marked hneedle, h]

theorem marked_likeTerm (a b : String) : marked (likeTerm a) = marked (likeTerm b) := by
  simp only [likeTerm, marked_listed, List.map_cons, List.map_nil, marked_likeNeedle _ a b]

theorem marked_oneOf {α : Type} {as bs : List α} (h : as.length = bs.length) (operand : String)
    (make : α → Param) :
    marked (oneOf operand (as.map make)) = marked (oneOf operand (bs.map make)) := by
  rw [oneOf, oneOf, marked_append, marked_append, marked_listed, marked_listed,
    map_marked marked_value, map_marked marked_value, List.length_map, List.length_map, h]

theorem map_marked_bound {a b : Option Calendar.Timestamp} (h : a.isSome = b.isSome)
    (comparison : String) :
    (bound comparison a).map marked = (bound comparison b).map marked := by
  have hlength (t : Option Calendar.Timestamp) : t.toList.length = if t.isSome then 1 else 0 := by
    cases t <;> rfl
  have hmarked (t : Calendar.Timestamp) :
      marked (plain comparison ++ value (.text t.stored)) = comparison.toList ++ ['?'] := by
    rw [marked_append, marked_plain, marked_value]
  rw [bound, bound, Option.toList_map, Option.toList_map, map_marked hmarked, map_marked hmarked,
    hlength, hlength, h]

variable {s t : Statement}

theorem marked_negatedIf (h : marked s = marked t) (negated : Bool) :
    marked (negatedIf negated s) = marked (negatedIf negated t) := by
  cases negated with
  | false => exact h
  | true => simp only [negatedIf, if_true, marked_append, h]

theorem marked_someItem (h : marked s = marked t) (column item : String) :
    marked (someItem column item s) = marked (someItem column item t) := by
  simp only [someItem, marked_append, h]

theorem marked_someAttachment (h : marked s = marked t) :
    marked (someAttachment s) = marked (someAttachment t) := by
  simp only [someAttachment, marked_append, h]

end Statement

/-- Conditions that differ in their values only leave one text. -/
theorem Predicate.SameShape.marked_eq {p q : Predicate} (h : p.SameShape q) :
    marked p.spelled = marked q.spelled := by
  cases h with
  | ownedBy a b => simp only [spelled, marked_append, marked_plain, marked_value]
  | inAccounts h => exact marked_oneOf h ..
  | addressContains field negated h =>
    cases field with
    | sender => exact marked_negatedIf (marked_likeAny h _) negated
    | recipient | cc | bcc =>
      exact marked_negatedIf (marked_someItem (marked_likeAny h _) ..) negated
  | subjectContains negated h => exact marked_negatedIf (marked_likeAny h _) negated
  | flagIs flag a b => simp only [spelled, marked_append, marked_plain, marked_value]
  | attachmentExists expected => rfl
  | attachmentNamed h => exact marked_someAttachment (marked_likeAny h _)
  | attachmentSized side a b =>
    cases side <;> exact marked_someAttachment (by simp only [marked_append, marked_value])
  | sentWithin hafter hbefore =>
    rw [spelled, spelled, ← Option.not_isSome, ← Option.not_isSome, hafter, hbefore,
      Option.not_isSome, Option.not_isSome]
    split
    · rfl
    · rw [marked_listed, marked_listed, List.map_append, List.map_append, map_marked_bound hafter,
        map_marked_bound hbefore]
  | inFolders h => exact marked_oneOf h ..
  | labelled h => exact marked_someItem (marked_oneOf h ..) ..
  | mentions h =>
    have hterm (term : String) := marked_likeTerm term ""
    rw [spelled, spelled, marked_listed, marked_listed, map_marked hterm, map_marked hterm, h]

/-- Two sets differ in their values only. -/
def PredicateSet.SameShape (s t : PredicateSet) : Prop :=
  List.Forall₂ Predicate.SameShape s.conditions t.conditions

theorem PredicateSet.SameShape.text_eq {s t : PredicateSet} (h : s.SameShape t) :
    s.clause.text = t.clause.text := by
  have hparts : List.Forall₂ Predicate.SameShape s.toList t.toList := .cons (.ownedBy _ _) h
  have hmarked : (s.toList.map Predicate.spelled).map marked =
      (t.toList.map Predicate.spelled).map marked := by
    rw [List.map_map, List.map_map, ← List.forall₂_eq_eq_eq, List.forall₂_map_left_iff,
      List.forall₂_map_right_iff]
    exact hparts.imp fun _ _ h => h.marked_eq
  have hs := of_bindMarks s.bind_clause
  have ht := of_bindMarks t.bind_clause
  rw [String.ext_iff, ← hs.1, ← ht.1]
  exact (flatMap_intercalate ..).trans ((congrArg _ hmarked).trans (flatMap_intercalate ..).symm)

/-- The text of a clause starts with the owner's condition. -/
theorem PredicateSet.text_starts (s : PredicateSet) :
    ∃ rest, s.clause.text = "m.user_id = ?" ++ rest := by
  have htext : s.clause.text.toList = List.intercalate " AND ".toList
      ("m.user_id = ?".toList :: s.conditions.map fun p => marked p.spelled) := by
    rw [← (of_bindMarks s.bind_clause).1, marked, spelled, flatMap_intercalate]
    have howner : marked (Predicate.ownedBy s.userId).spelled = "m.user_id = ?".toList := by
      rw [Predicate.spelled, marked_append, marked_plain, marked_value]
      rfl
    rw [← howner, ← marked_plain " AND ", toList, List.map_map]
    rfl
  obtain ⟨rest, hrest⟩ : ∃ rest, s.clause.text.toList = "m.user_id = ?".toList ++ rest := by
    rw [htext]
    cases s.conditions.map fun p => marked p.spelled with
    | nil => exact ⟨[], by rw [List.intercalate_singleton, List.append_nil]⟩
    | cons part parts => exact ⟨_, by rw [List.intercalate_cons_cons, List.append_assoc]⟩
  refine ⟨String.ofList rest, String.ext ?_⟩
  rw [hrest, String.toList_append]
  exact congrArg _ String.toList_ofList.symm

/-- No value stands in a clause's text, and each mark in it is for the value that belongs there.
Sets that differ in their values only have one text. It starts with the owner's condition, and with
the parameters, one for each mark and the owner's the first, it makes the condition that the set
stands for. -/
theorem PredicateSet.clause_keeps_values_apart (s : PredicateSet) :
    (∀ t : PredicateSet, s.SameShape t → s.clause.text = t.clause.text) ∧
      (∃ rest, s.clause.text = "m.user_id = ?" ++ rest) ∧
      s.clause.text.toList.count '?' = s.clause.params.length ∧
      s.clause.params.head? = some (.text s.userId) ∧
      bindMarks s.clause.text.toList s.clause.params = some s.spelled := by
  refine ⟨fun t h => h.text_eq, s.text_starts, (of_bindMarks s.bind_clause).2, ?_, s.bind_clause⟩
  rw [Clause.params_eq_pieces, clause, toList, Clause.pieces]
  cases s.conditions <;> rfl

/-- Values that read like SQL leave the text as it is. -/
theorem PredicateSet.clause_keeps_quotes_apart :
    let s : PredicateSet := ⟨"u1", [.inAccounts ["a1", "a2"],
      .addressContains .recipient ["alice"] true, .flagIs .read true, .mentions ["report"]]⟩
    let t : PredicateSet := ⟨"' OR '?' = '", [.inAccounts ["?", "') OR (1 = 1"],
      .addressContains .recipient ["%' --"] true, .flagIs .read false, .mentions [""]]⟩
    s.SameShape t ∧ s.clause.text = t.clause.text := by
  intro s t
  have h : s.SameShape t := .cons (.inAccounts rfl) (.cons (.addressContains _ _ rfl)
    (.cons (.flagIs ..) (.cons (.mentions rfl) .nil)))
  exact ⟨h, (clause_keeps_values_apart s).1 t h⟩

end MailSearch
