import MailSearch.Clause.Lowering
import MailSearch.Proofs.Clause.Pieces

/-!
# Marks and values

A clause reaches the store as a text with a mark, `?`, for each value, and the values beside it. The
store gives the marks their values from the left (`bindMarks`).

* `Statement`: SQL with the values in their places.
* `of_bindMarks`: what is bound is the text with a value at each mark.
* `Clause.isMarkless`: no part of a clause has a mark but for a parameter.
* `Clause.bindMarks_text`: each parameter of a clause is bound where the clause has it.
-/

namespace MailSearch

/-! ## Statements -/

/-- SQL with values in their places. -/
abbrev Statement := List (Char ⊕ Param)

theorem flatMap_intercalate {α β : Type} (f : α → List β) (separator : List α)
    (parts : List (List α)) : (List.intercalate separator parts).flatMap f =
      List.intercalate (separator.flatMap f) (parts.map (List.flatMap f)) := by
  induction parts with
  | nil => rfl
  | cons part parts ih =>
    cases parts with
    | nil => simp
    | cons next parts =>
      rw [List.map_cons] at ih
      rw [List.intercalate_cons_cons, List.flatMap_append, List.flatMap_append, ih, List.map_cons,
        List.map_cons, List.intercalate_cons_cons]

namespace Statement

/-- SQL without values. -/
def plain (s : String) : Statement := s.toList.map .inl

/-- A value in its place. -/
def value (v : Param) : Statement := [.inr v]

/-- Parts in parentheses, with a text between them. -/
def listed (separator : String) (parts : List Statement) : Statement :=
  plain "(" ++ (List.intercalate (plain separator) parts ++ plain ")")

/-- A mark at the place of a value. -/
def mark : Char ⊕ Param → List Char
  | .inl c => [c]
  | .inr _ => ['?']

/-- The text that is left of a statement when a mark stands for each value. -/
def marked (s : Statement) : List Char := s.flatMap mark

@[simp] theorem marked_plain (s : String) : marked (plain s) = s.toList := by
  simp [marked, plain, List.flatMap_map, mark]

@[simp] theorem marked_value (v : Param) : marked (value v) = ['?'] := rfl

@[simp] theorem marked_append (s t : Statement) : marked (s ++ t) = marked s ++ marked t :=
  List.flatMap_append

@[simp] theorem marked_listed (separator : String) (parts : List Statement) :
    marked (listed separator parts) =
      '(' :: (List.intercalate separator.toList (parts.map marked) ++ [')']) := by
  have hparts : marked (List.intercalate (plain separator) parts) =
      List.intercalate (marked (plain separator)) (parts.map marked) := flatMap_intercalate ..
  rw [listed, marked_append, marked_append, hparts, marked_plain, marked_plain, marked_plain]
  rfl

end Statement

/-! ## Binding -/

/-- Gives each mark of a text, from the left, the next of the values. Every mark must have a value,
and every value a mark. -/
def bindMarks : List Char → List Param → Option Statement
  | [], [] => some []
  | [], _ :: _ => none
  | c :: cs, [] => if c = '?' then none else (bindMarks cs []).map (.inl c :: ·)
  | c :: cs, v :: values =>
    if c = '?' then (bindMarks cs values).map (.inr v :: ·)
    else (bindMarks cs (v :: values)).map (.inl c :: ·)

theorem bindMarks_mark (cs : List Char) (v : Param) (values : List Param) :
    bindMarks ('?' :: cs) (v :: values) = (bindMarks cs values).map (.inr v :: ·) := rfl

theorem bindMarks_cons {c : Char} (h : c ≠ '?') (cs : List Char) (values : List Param) :
    bindMarks (c :: cs) values = (bindMarks cs values).map (.inl c :: ·) := by
  cases values <;> rw [bindMarks, if_neg h]

/-- A text without a mark takes no value. -/
theorem bindMarks_append {cs : List Char} (h : '?' ∉ cs) (rest : List Char) (values : List Param) :
    bindMarks (cs ++ rest) values = (bindMarks rest values).map (cs.map .inl ++ ·) := by
  induction cs with
  | nil => simp
  | cons c cs ih =>
    have hc : c ≠ '?' := fun hc => h (hc ▸ List.mem_cons_self)
    have hcs : '?' ∉ cs := fun hcs => h (List.mem_cons_of_mem _ hcs)
    rw [List.cons_append, bindMarks_cons hc, ih hcs, Option.map_map]
    rfl

/-- The text is the statement with its values taken out, and it has as many marks as values. -/
theorem of_bindMarks {cs : List Char} {values : List Param} {s : Statement}
    (h : bindMarks cs values = some s) :
    Statement.marked s = cs ∧ cs.count '?' = values.length := by
  fun_induction bindMarks cs values generalizing s with
  | case1 =>
    cases h
    exact ⟨rfl, rfl⟩
  | case2 v values => cases h
  | case3 cs => cases h
  | case4 c cs hc ih =>
    obtain ⟨rest, hrest, rfl⟩ := Option.map_eq_some_iff.mp h
    obtain ⟨rfl, hcount⟩ := ih hrest
    exact ⟨rfl, by rw [List.count_cons_of_ne hc, hcount]⟩
  | case5 cs v values ih =>
    obtain ⟨rest, hrest, rfl⟩ := Option.map_eq_some_iff.mp h
    obtain ⟨rfl, hcount⟩ := ih hrest
    exact ⟨rfl, by rw [List.count_cons_self, hcount, List.length_cons]⟩
  | case6 c cs v values hc ih =>
    obtain ⟨rest, hrest, rfl⟩ := Option.map_eq_some_iff.mp h
    obtain ⟨rfl, hcount⟩ := ih hrest
    exact ⟨rfl, by rw [List.count_cons_of_ne hc, hcount]⟩

/-! ## Pieces -/

namespace Piece

/-- A piece with its value in place. -/
def filled : Piece → Statement
  | sql s => .plain s
  | param v => .value v

/-- Whether the piece is a parameter or has no mark. -/
def isMarkless : Piece → Bool
  | sql s => !s.toList.contains '?'
  | param _ => true

/-- Where only parameters are marked, each mark gets its own parameter. -/
theorem bindMarks_pieces {pieces : List Piece} (h : pieces.all isMarkless = true) :
    bindMarks (textOf pieces).toList (paramsOf pieces) = some (pieces.flatMap filled) := by
  induction pieces with
  | nil => rfl
  | cons p pieces ih =>
    obtain ⟨hp, hpieces⟩ := Bool.and_eq_true_iff.mp (List.all_cons ▸ h)
    rw [textOf_cons, String.toList_append, List.flatMap_cons]
    cases p with
    | sql s =>
      have hs : '?' ∉ s.toList := by simpa [isMarkless] using hp
      rw [paramsOf_sql]
      exact (bindMarks_append hs _ _).trans (by rw [ih hpieces]; rfl)
    | param v =>
      have hmark : (param v).text.toList = ['?'] := by simp [text]
      rw [hmark, paramsOf_param, List.singleton_append, bindMarks_mark, ih hpieces]
      rfl

theorem joined_eq_intercalate (separator : String) (parts : List (List Piece)) :
    joined separator parts = List.intercalate [sql separator] parts := by
  fun_induction joined separator parts with
  | case1 => rfl
  | case2 pieces => exact List.intercalate_singleton.symm
  | case3 pieces parts hparts ih =>
    rw [ih, List.intercalate_cons_of_ne_nil hparts, List.append_assoc]
    rfl

theorem filled_joined (separator : String) (parts : List (List Piece)) :
    (joined separator parts).flatMap filled =
      List.intercalate (Statement.plain separator) (parts.map (List.flatMap filled)) := by
  rw [joined_eq_intercalate, flatMap_intercalate, List.flatMap_singleton]
  rfl

/-- A list in parentheses is filled part by part. -/
theorem filled_listed {α : Type} (separator : String) (make : α → List Piece) (l : List α) :
    (inParens (joined separator (l.map make))).flatMap filled =
      Statement.listed separator (l.map fun x => (make x).flatMap filled) := by
  have hparens (pieces : List Piece) : (inParens pieces).flatMap filled =
      Statement.plain "(" ++ (pieces.flatMap filled ++ Statement.plain ")") := by
    simp [inParens, filled]
  rw [hparens, filled_joined, List.map_map]
  rfl

@[simp] theorem isMarkless_param (v : Param) : (param v).isMarkless = true := rfl

@[simp] theorem isMarkless_sql_append (s t : String) :
    (sql (s ++ t)).isMarkless = ((sql s).isMarkless && (sql t).isMarkless) := by
  simp [isMarkless]

@[simp] theorem isMarkless_inParens (pieces : List Piece) :
    (inParens pieces).all isMarkless = pieces.all isMarkless := by
  rw [inParens, List.all_cons, List.all_append]
  exact Bool.and_true _

theorem isMarkless_joined {α : Type} {separator : String} {make : α → List Piece}
    (hs : (sql separator).isMarkless = true) (h : ∀ x, (make x).all isMarkless = true)
    (l : List α) : (joined separator (l.map make)).all isMarkless = true := by
  induction l with
  | nil => rfl
  | cons x l ih =>
    cases l with
    | nil => exact h x
    | cons y l =>
      rw [List.map_cons] at ih
      rw [List.map_cons, List.map_cons, joined, List.all_append, List.all_cons, h x, hs, ih]
      · rfl
      · simp

end Piece

open Piece

/-! ## No part of a clause has a mark of its own -/

theorem MessageColumn.isMarkless_name (c : MessageColumn) : (sql c.name).isMarkless = true := by
  cases c <;> decide

theorem AttachmentColumn.isMarkless_name (c : AttachmentColumn) :
    (sql c.name).isMarkless = true := by
  cases c <;> decide

theorem ListColumn.isMarkless_itemName (list : ListColumn) :
    (sql list.itemName).isMarkless = true := by
  cases list <;> decide

@[simp] theorem Operand.isMarkless_text (operand : Operand) :
    (sql operand.text).isMarkless = true := by
  cases operand with
  | column c =>
    simp only [text, isMarkless_sql_append, MessageColumn.isMarkless_name, Bool.and_true]
    decide
  | orEmpty c =>
    simp only [text, isMarkless_sql_append, MessageColumn.isMarkless_name, Bool.and_true]
    decide
  | attachment c =>
    simp only [text, isMarkless_sql_append, AttachmentColumn.isMarkless_name, Bool.and_true]
    decide
  | item list =>
    simp only [text, isMarkless_sql_append, ListColumn.isMarkless_itemName, Bool.true_and]
    decide

@[simp] theorem Comparison.isMarkless_text (comparison : Comparison) :
    (sql comparison.text).isMarkless = true := by
  cases comparison <;> decide

@[simp] theorem isMarkless_paramList (values : List Param) :
    (paramList values).all isMarkless = true := by
  rw [paramList, isMarkless_inParens]
  exact isMarkless_joined (by decide) (fun _ => rfl) values

theorem Test.isMarkless (test : Test) : test.pieces.all Piece.isMarkless = true := by
  have hin : (sql " IN ").isMarkless = true := by decide
  have hlike : (sql " LIKE ").isMarkless = true := by decide
  have hfolded (operand : Operand) : (sql operand.foldedText).isMarkless = true := by
    simp only [Operand.foldedText, isMarkless_sql_append, Operand.isMarkless_text, Bool.and_true]
    decide
  cases test with
  | always => decide
  | compare operand comparison value =>
    simp only [pieces, List.all_cons, isMarkless_sql_append, Operand.isMarkless_text,
      Comparison.isMarkless_text, isMarkless_param]
    decide
  | oneOf operand values => simp [pieces, hin]
  | foldedLike operand pattern =>
    simp only [pieces, List.all_cons, isMarkless_sql_append, isMarkless_param, hfolded, hlike]
    decide
  | foldedOneOf operand values => simp [pieces, hfolded, hin]

theorem Choice.isMarkless (choice : Choice) : choice.pieces.all Piece.isMarkless = true := by
  cases choice with
  | one test => exact test.isMarkless
  | any tests =>
    rw [pieces, isMarkless_inParens]
    exact isMarkless_joined (by decide) Test.isMarkless tests

theorem Body.isMarkless (body : Body) : body.pieces.all Piece.isMarkless = true := by
  cases body with
  | one choice => exact choice.isMarkless
  | all choices =>
    rw [pieces, isMarkless_inParens]
    exact isMarkless_joined (by decide) Choice.isMarkless choices

theorem Scope.isMarkless (scope : Scope) : scope.pieces.all Piece.isMarkless = true := by
  have hclose : [sql ")"].all Piece.isMarkless = true := by decide
  cases scope with
  | message body => exact body.isMarkless
  | someAttachment body =>
    cases body with
    | none => decide
    | some body =>
      rw [pieces, List.all_cons, List.all_append, body.isMarkless, hclose]
      decide
  | someItem list body =>
    rw [pieces, List.all_cons, List.all_append, body.isMarkless, hclose]
    simp only [isMarkless_sql_append, MessageColumn.isMarkless_name,
      ListColumn.isMarkless_itemName, Bool.and_true]
    decide

theorem Condition.isMarkless (c : Condition) : c.pieces.all Piece.isMarkless = true := by
  rw [pieces, List.all_append, c.scope.isMarkless]
  cases c.negated <;> decide

theorem Clause.isMarkless (clause : Clause) : clause.pieces.all Piece.isMarkless = true :=
  isMarkless_joined (by decide) Condition.isMarkless clause

theorem Clause.bindMarks_text (clause : Clause) (h : clause ≠ []) :
    bindMarks clause.text.toList clause.params = some (clause.pieces.flatMap Piece.filled) := by
  rw [clause.text_eq_pieces h, clause.params_eq_pieces]
  exact bindMarks_pieces clause.isMarkless

end MailSearch
