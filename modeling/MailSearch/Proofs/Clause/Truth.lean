import MailSearch.Clause.Evaluation
import MailSearch.Proofs.Clause.Fitting
import MailSearch.Proofs.Clause.Pattern
import MailSearch.Proofs.Data.Outcome
import MailSearch.Proofs.Store.Cell

/-!
# The truth of clauses

What the parts of a clause come to where every test gives a truth value (`Gives`). Only a pattern
that is too long keeps one from it.

* `Truth.gives_anyOf`, `Truth.gives_allOf`: decided tests combine as booleans.
* `gives_anyTrue`: the search for a candidate is `List.any`.
* `Clause.gives_select`: a clause of decided conditions selects what all of them are true of.
  `Clause.of_select`: what any clause selects, every condition is true of.
* `likeFolded`: whether the store finds a needle in a text. `Test.gives_foldedLike`,
  `Choice.gives_containsAny`, `Test.truth_isAny`: the tests on folded texts.
-/

namespace MailSearch

open Text

variable {fit : Prop}

/-! ## Decided truth values -/

namespace Truth

variable {α β : Type} {test : β → Except StoreError Truth} {f : α → β} {p : α → Bool} {l : List α}

/-- Decided tests, of which one must hold. -/
theorem gives_anyOf (h : ∀ x ∈ l, Gives fit (test (f x)) (some (p x))) :
    Gives fit (anyOf test (l.map f)) (some (l.any p)) := by
  induction l with
  | nil => exact .ok _
  | cons x l ih =>
    have htail := ih fun y hy => h y (List.mem_cons_of_mem _ hy)
    rw [List.map_cons, List.any_cons, anyOf]
    rcases h x List.mem_cons_self with hx | ⟨hfit, hx⟩
    · rw [hx]
      cases p x
      · exact htail
      · exact .ok _
    · rw [hx]
      exact .refused hfit

/-- Decided tests, of which all must hold. -/
theorem gives_allOf (h : ∀ x ∈ l, Gives fit (test (f x)) (some (p x))) :
    Gives fit (allOf test (l.map f)) (some (l.all p)) := by
  induction l with
  | nil => exact .ok _
  | cons x l ih =>
    have htail := ih fun y hy => h y (List.mem_cons_of_mem _ hy)
    rw [List.map_cons, List.all_cons, allOf]
    rcases h x List.mem_cons_self with hx | ⟨hfit, hx⟩
    · rw [hx]
      cases p x
      · exact .ok _
      · exact htail
    · rw [hx]
      exact .refused hfit

end Truth

/-- A choice of decided tests is decided. -/
theorem Choice.gives_any {α : Type} {b : Bindings} {make : α → Test} {p : α → Bool} {l : List α}
    (h : ∀ x ∈ l, Gives fit ((make x).truth b) (some (p x))) :
    Gives fit ((Choice.any (l.map make)).truth b) (some (l.any p)) := Truth.gives_anyOf h

/-- A conjunction of decided choices is decided. -/
theorem Body.gives_all {α : Type} {b : Bindings} {make : α → Choice} {p : α → Bool} {l : List α}
    (h : ∀ x ∈ l, Gives fit ((make x).truth b) (some (p x))) :
    Gives fit ((Body.all (l.map make)).truth b) (some (l.all p)) := Truth.gives_allOf h

/-- The search for a candidate that decided tests are true of. -/
theorem gives_anyTrue {α β : Type} {test : β → Except StoreError Truth} {f : α → β} {p : α → Bool}
    {l : List α} (h : ∀ x ∈ l, Gives fit (test (f x)) (some (p x))) :
    Gives fit (anyTrue test (l.map f)) (l.any p) := by
  induction l with
  | nil => exact .ok _
  | cons x l ih =>
    have htail := ih fun y hy => h y (List.mem_cons_of_mem _ hy)
    rw [List.map_cons, List.any_cons, anyTrue]
    rcases h x List.mem_cons_self with hx | ⟨hfit, hx⟩
    · rw [hx]
      cases p x
      · exact htail
      · exact .ok _
    · rw [hx]
      exact .refused hfit

/-! ## Conditions -/

variable {row : MessageRow} {rows : List AttachmentRow}

/-- Decided conditions, all of which must be true. -/
theorem gives_allTrue {α : Type} {f : α → Condition} {p : α → Bool} {l : List α}
    (h : ∀ x ∈ l, Gives fit ((f x).truth row rows) (some (p x))) :
    Gives fit (allTrue row rows (l.map f)) (l.all p) := by
  induction l with
  | nil => exact .ok _
  | cons x l ih =>
    have htail := ih fun y hy => h y (List.mem_cons_of_mem _ hy)
    rw [List.map_cons, List.all_cons, allTrue]
    rcases h x List.mem_cons_self with hx | ⟨hfit, hx⟩
    · rw [hx]
      cases p x
      · exact .ok _
      · exact htail
    · rw [hx]
      exact .refused hfit

theorem of_allTrue {l : List Condition} (h : allTrue row rows l = .ok true) :
    ∀ c ∈ l, c.truth row rows = .ok (some true) := by
  induction l with
  | nil => simp
  | cons c l ih =>
    unfold allTrue at h
    split at h
    · cases h
    · rename_i ht
      intro d hd
      rcases List.mem_cons.mp hd with rfl | hd
      · exact ht
      · exact ih h d hd
    · cases h

theorem Clause.mem_ordered {clause : Clause} {c : Condition} : c ∈ clause.ordered ↔ c ∈ clause := by
  simp only [ordered, List.mem_append, List.mem_filter]
  cases c.isIndexed <;> cases c.isNested <;> simp

/-- The order in which conditions are decided is one of what they are made of. -/
theorem Clause.exists_ordered {α : Type} (f : α → Condition) (l : List α) :
    ∃ l' : List α, ordered (l.map f) = l'.map f ∧ ∀ x, x ∈ l' ↔ x ∈ l := by
  refine ⟨l.filter (fun x => (f x).isIndexed) ++
    l.filter (fun x => !(f x).isIndexed && !(f x).isNested) ++
    l.filter (fun x => (f x).isNested), ?_, fun x => ?_⟩
  · simp only [ordered, List.filter_map, List.map_append, Function.comp_def]
  · simp only [List.mem_append, List.mem_filter]
    cases (f x).isIndexed <;> cases (f x).isNested <;> simp

/-- A clause of decided conditions selects what all of them are true of. -/
theorem Clause.gives_select {α : Type} {f : α → Condition} {p : α → Bool} {l : List α}
    (h : ∀ x ∈ l, Gives fit ((f x).truth row rows) (some (p x))) :
    Gives fit (select (l.map f) row rows) (l.all p) := by
  obtain ⟨l', hordered, hmem⟩ := exists_ordered f l
  have hall : l'.all p = l.all p := by
    rw [Bool.eq_iff_iff, List.all_eq_true, List.all_eq_true]
    exact forall_congr' fun x => by rw [hmem x]
  rw [select, hordered, ← hall]
  exact gives_allTrue fun x hx => h x ((hmem x).mp hx)

/-- Every condition is true of what a clause selects. -/
theorem Clause.of_select {clause : Clause} (h : clause.select row rows = .ok true) :
    ∀ c ∈ clause, c.truth row rows = .ok (some true) :=
  fun c hc => of_allTrue h c (mem_ordered.mpr hc)

/-! ## Tests on folded texts -/

theorem folded_text (s : String) : (Cell.text s).folded = .ok (some (fold s)) := rfl

/-- Whether the store finds the needle in the hay: the folded hay has the form of the pattern of the
folded needle. -/
def likeFolded (hay needle : String) : Bool :=
  like (foldedPattern needle).toList (fold hay).toList

/-- Whether the store finds one of the needles in the hay. -/
def likesAny (needles : List String) (hay : String) : Bool := needles.any (likeFolded hay)

/-- The store finds every needle that the hay contains before it ends, case aside. -/
theorem likeFolded_of_contained {hay needle : String}
    (h : lowercase needle.toList <:+: lowercase (beforeNul hay.toList)) :
    likeFolded hay needle = true := by
  rw [likeFolded, foldedPattern, String.toList_ofList, fold_toList]
  exact like_of_infix (by rwa [beforeNul_lowercase])

/-- In plain texts it finds nothing else. -/
theorem likeFolded_eq_containsFolded {hay needle : String} (hneedle : IsPlain needle.toList)
    (hhay : IsPlain hay.toList) : likeFolded hay needle = containsFolded hay needle := by
  rw [likeFolded, foldedPattern, String.toList_ofList, fold_toList, like_lowercase hneedle hhay,
    containsFolded]

/-- A pattern that is too long is not matched with any text. -/
theorem Test.truth_foldedLike_of_not_fits {b : Bindings} {operand : Operand} {hay : String}
    (hcell : operand.cell b = .text hay) {needle : String} (h : ¬ PatternFits needle) :
    (Test.foldedLike operand (foldedPattern needle)).truth b = .error .patternTooLong := by
  simp only [truth, hcell, folded_text, if_pos (Nat.lt_of_not_le h)]

/-- Any other is. -/
theorem Test.gives_foldedLike {b : Bindings} {operand : Operand} {hay : String}
    (hcell : operand.cell b = .text hay) (needle : String) :
    Gives (PatternFits needle) ((Test.foldedLike operand (foldedPattern needle)).truth b)
      (some (likeFolded hay needle)) := by
  by_cases hfit : PatternFits needle
  · refine .inl ?_
    simp only [truth, hcell, folded_text, Option.map_some, likeFolded,
      if_neg (Nat.not_lt.mpr hfit)]
  · exact .inr ⟨hfit, truth_foldedLike_of_not_fits hcell hfit⟩

theorem Choice.gives_containsAny {b : Bindings} {operand : Operand} {hay : String}
    (hcell : operand.cell b = .text hay) (needles : List String) :
    Gives (∀ needle ∈ needles, PatternFits needle) ((Choice.containsAny operand needles).truth b)
      (some (likesAny needles hay)) :=
  Choice.gives_any fun needle hneedle =>
    (Test.gives_foldedLike hcell needle).of_imp fun h => h needle hneedle

theorem contains_map_fold (values : List String) (s : String) :
    (values.map fold).contains (fold s) = isAny values s := by
  rw [Bool.eq_iff_iff, List.contains_iff_mem, List.mem_map, isAny, List.any_eq_true]
  constructor <;> rintro ⟨v, hv, h⟩
  · exact ⟨v, hv, decide_eq_true h⟩
  · exact ⟨v, hv, of_decide_eq_true h⟩

/-- A list of folded values decides whether a text is one of them, case aside. -/
theorem Test.truth_isAny {b : Bindings} {operand : Operand} {values : List String} {s : String}
    (hcell : operand.cell b = .text s) :
    (Test.isAny operand values).truth b = .ok (some (MailSearch.isAny values s)) := by
  simp only [isAny, truth, hcell, folded_text, Except.map, contains_map_fold]

end MailSearch
