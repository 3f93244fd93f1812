import Mathlib
import MailSearch.Clause.Basic

/-!
# Pieces of clauses

What is written of a clause is a list of pieces, some of them SQL and some of them parameters. The
pieces are laid out beside the writer, which makes a text and pushes parameters apart from it:

* `Writes`: a writer makes the text of some pieces and pushes their parameters.
* `Test.writes`, `Choice.writes`, `Body.writes`, `Scope.writes`, `Condition.writes`: each part of a
  clause is written so.
* `Clause.text_eq_pieces`, `Clause.params_eq_pieces`: so the marks in the text of a clause and its
  parameters come in one order.
-/

namespace MailSearch

/-- A piece of a clause's text. -/
inductive Piece where
  | sql (text : String)
  | param (value : Param)
  deriving DecidableEq, Repr

namespace Piece

/-- A piece as it stands in the text. -/
def text : Piece → String
  | sql s => s
  | param _ => "?"

/-- The parameter of a piece. -/
def param? : Piece → Option Param
  | sql _ => none
  | param v => some v

/-- The text of pieces. -/
def textOf (pieces : List Piece) : String := String.join (pieces.map text)

/-- The parameters of pieces. -/
def paramsOf (pieces : List Piece) : List Param := pieces.filterMap param?

/-- Lists of pieces with a text between them. -/
def joined (separator : String) : List (List Piece) → List Piece
  | [] => []
  | [pieces] => pieces
  | pieces :: rest => pieces ++ sql separator :: joined separator rest

/-- Pieces in parentheses. -/
def inParens (pieces : List Piece) : List Piece := sql "(" :: (pieces ++ [sql ")"])

@[simp] theorem textOf_nil : textOf [] = "" := String.join_nil

@[simp] theorem textOf_cons (p : Piece) (pieces : List Piece) :
    textOf (p :: pieces) = p.text ++ textOf pieces := String.join_cons

@[simp] theorem textOf_append (ps qs : List Piece) :
    textOf (ps ++ qs) = textOf ps ++ textOf qs := by
  rw [textOf, List.map_append, String.join_append]
  rfl

@[simp] theorem paramsOf_nil : paramsOf [] = [] := rfl

@[simp] theorem paramsOf_sql (s : String) (pieces : List Piece) :
    paramsOf (sql s :: pieces) = paramsOf pieces := rfl

@[simp] theorem paramsOf_param (v : Param) (pieces : List Piece) :
    paramsOf (param v :: pieces) = v :: paramsOf pieces := rfl

@[simp] theorem paramsOf_append (ps qs : List Piece) :
    paramsOf (ps ++ qs) = paramsOf ps ++ paramsOf qs := List.filterMap_append

theorem textOf_joined (separator : String) (parts : List (List Piece)) :
    textOf (joined separator parts) = separator.intercalate (parts.map textOf) := by
  fun_induction joined separator parts with
  | case1 => rfl
  | case2 pieces => exact String.intercalate_singleton.symm
  | case3 pieces parts hparts ih =>
    have hmap : parts.map textOf ≠ [] := by simpa using hparts
    rw [List.map_cons, String.intercalate_cons_of_ne_nil hmap, ← ih, textOf_append, textOf_cons,
      String.append_assoc]
    rfl

theorem paramsOf_joined (separator : String) (parts : List (List Piece)) :
    paramsOf (joined separator parts) = parts.flatMap paramsOf := by
  fun_induction joined separator parts with
  | case1 => rfl
  | case2 pieces => rw [List.flatMap_singleton]
  | case3 pieces parts hparts ih =>
    rw [paramsOf_append, paramsOf_sql, ih, List.flatMap_cons]

end Piece

open Piece

/-! ## The pieces of a clause -/

/-- A list of parameters in parentheses. -/
def paramList (values : List Param) : List Piece :=
  inParens (joined ", " (values.map fun v => [param v]))

/-- The pieces of a test. -/
def Test.pieces : Test → List Piece
  | always => [sql "1 = 1"]
  | compare operand comparison value =>
    [sql (operand.text ++ " " ++ comparison.text ++ " "), param value]
  | oneOf operand values => sql (operand.text ++ " IN ") :: paramList values
  | foldedLike operand pattern =>
    [sql (operand.foldedText ++ " LIKE "), param (.text pattern), sql " ESCAPE '\\'"]
  | foldedOneOf operand values =>
    sql (operand.foldedText ++ " IN ") :: paramList (values.map Param.text)

/-- The pieces of a choice. -/
def Choice.pieces : Choice → List Piece
  | one test => test.pieces
  | any tests => inParens (joined " OR " (tests.map Test.pieces))

/-- The pieces of a body. -/
def Body.pieces : Body → List Piece
  | one choice => choice.pieces
  | all choices => inParens (joined " AND " (choices.map Choice.pieces))

/-- The pieces of a scope. -/
def Scope.pieces : Scope → List Piece
  | message body => body.pieces
  | someAttachment none =>
    [sql "EXISTS (SELECT 1 FROM attachments a WHERE a.message_id = m.id)"]
  | someAttachment (some body) =>
    sql "EXISTS (SELECT 1 FROM attachments a WHERE a.message_id = m.id AND " ::
      (body.pieces ++ [sql ")"])
  | someItem list body =>
    sql ("EXISTS (SELECT 1 FROM json_each(COALESCE(m." ++ list.column.name ++ ", '[]')) " ++
      list.itemName ++ " WHERE ") :: (body.pieces ++ [sql ")"])

/-- The pieces of a condition. -/
def Condition.pieces (c : Condition) : List Piece :=
  (if c.negated then [sql "NOT "] else []) ++ c.scope.pieces

/-- The pieces of a clause. -/
def Clause.pieces (clause : Clause) : List Piece := joined " AND " (clause.map Condition.pieces)

/-! ## What is written -/

/-- A writer makes the text of some pieces and pushes their parameters. -/
def Writes (w : Writing String) (pieces : List Piece) : Prop :=
  ∀ pushed, w.run pushed = pure (textOf pieces, pushed ++ paramsOf pieces)

/-- Parts that are written one after the other. -/
theorem Writes.mapM {α : Type} {write : α → Writing String} {make : α → List Piece}
    (h : ∀ x, Writes (write x) (make x)) (l : List α) (pushed : List Param) :
    (l.mapM write).run pushed =
      pure (l.map fun x => textOf (make x), pushed ++ l.flatMap fun x => paramsOf (make x)) := by
  induction l generalizing pushed with
  | nil => simp
  | cons x l ih =>
    rw [List.mapM_cons, StateT.run_bind, h x]
    simp only [bind_pure_comp, StateT.run_map, pure_bind]
    rw [ih]
    simp

/-- A list of parts in parentheses, with a text between them. -/
theorem Writes.listed {α : Type} {write : α → Writing String} {make : α → List Piece}
    (h : ∀ x, Writes (write x) (make x)) (separator : String) (l : List α) :
    Writes (do return "(" ++ separator.intercalate (← l.mapM write) ++ ")")
      (inParens (joined separator (l.map make))) := by
  intro pushed
  simp only [bind_pure_comp, StateT.run_map, Writes.mapM h, inParens]
  simp [textOf_joined, paramsOf_joined, text, List.flatMap_map, Function.comp_def,
    String.append_assoc]

theorem textOf_oneOf (operand : String) (values : List Param) :
    textOf (sql (operand ++ " IN ") :: paramList values) =
      operand ++ " IN (" ++ placeholders values.length ++ ")" := by
  have hmarks : (values.map fun v => [param v]).map textOf = List.replicate values.length "?" := by
    rw [List.map_map, List.eq_replicate_iff]
    refine ⟨List.length_map _, fun s hs => ?_⟩
    obtain ⟨v, -, rfl⟩ := List.mem_map.mp hs
    rfl
  refine String.ext ?_
  simp [paramList, inParens, textOf_joined, hmarks, text, placeholders]

theorem paramsOf_paramList (values : List Param) : paramsOf (paramList values) = values := by
  rw [paramList, inParens, paramsOf_sql, paramsOf_append, paramsOf_joined, List.flatMap_map]
  simp

theorem Test.writes (test : Test) : Writes test.write test.pieces := by
  intro pushed
  cases test with
  | always => simp [write, pieces, text]
  | compare operand comparison value =>
    simp [write, pieces, pushParams, text, String.append_assoc]
  | oneOf operand values =>
    simp [write, pieces, pushParams, ← textOf_oneOf, paramsOf_paramList]
  | foldedLike operand pattern =>
    simp [write, pieces, pushParams, text, String.append_assoc]
  | foldedOneOf operand values =>
    have htext := textOf_oneOf operand.foldedText (values.map Param.text)
    rw [List.length_map] at htext
    simp [write, pieces, pushParams, ← htext, paramsOf_paramList]

theorem Choice.writes (choice : Choice) : Writes choice.write choice.pieces := by
  cases choice with
  | one test => exact test.writes
  | any tests => exact Writes.listed Test.writes " OR " tests

theorem Body.writes (body : Body) : Writes body.write body.pieces := by
  cases body with
  | one choice => exact choice.writes
  | all choices => exact Writes.listed Choice.writes " AND " choices

theorem Scope.writes (scope : Scope) : Writes scope.write scope.pieces := by
  intro pushed
  cases scope with
  | message body => exact body.writes pushed
  | someAttachment body =>
    cases body with
    | none => simp [write, pieces, text]
    | some body =>
      have hbody := body.writes pushed
      simp [write, pieces, text, hbody, String.append_assoc]
  | someItem list body =>
    have hbody := body.writes pushed
    simp [write, pieces, text, hbody, String.append_assoc]

theorem Condition.writes (c : Condition) : Writes c.write c.pieces := by
  intro pushed
  have hscope := c.scope.writes pushed
  cases hnegated : c.negated <;> simp [write, pieces, text, hscope, hnegated]

theorem Clause.writes (clause : Clause) (h : clause ≠ []) : Writes clause.write clause.pieces := by
  intro pushed
  simp only [write, bind_pure_comp, StateT.run_map, Writes.mapM Condition.writes]
  simp [pieces, textOf_joined, paramsOf_joined, List.flatMap_map, Function.comp_def, h]

/-- The text of a clause is that of its pieces. -/
theorem Clause.text_eq_pieces (clause : Clause) (h : clause ≠ []) :
    clause.text = textOf clause.pieces := congrArg Prod.fst (clause.writes h [])

/-- The parameters that are pushed are those of the pieces, in the order of their marks in the
text. -/
theorem Clause.params_eq_pieces (clause : Clause) : clause.params = paramsOf clause.pieces := by
  by_cases h : clause = []
  · rw [h]
    rfl
  · exact congrArg Prod.snd (clause.writes h [])

end MailSearch
