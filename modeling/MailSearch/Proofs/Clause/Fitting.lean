import MailSearch.Clause.Limits
import MailSearch.Clause.Lowering
import MailSearch.Proofs.Text.Folding

/-!
# Clauses that fit

The engine takes a statement only within its limits, and matches no pattern that is too long.

* `Clause.Fits`: the statements with the clause are prepared, be it for a page or for a count.
* `PatternFits`: the pattern of a needle is no longer than patterns may be.
* `PredicateSet.Fits`: the clause of a set fits, and so does every pattern in it.
* `Gives`: what comes of it that a pattern may be too long. The outcome is a value, or else that
  refusal, which only patterns that do not fit can bring about.
-/

namespace MailSearch

open Text

/-! ## Statements -/

/-- The expressions of the clause are not nested too deeply, and its parameters leave room for the
two of a page. -/
structure Clause.Fits (clause : Clause) : Prop where
  depth : clause.depth ≤ maxDepth
  params : clause.params.length + 2 ≤ maxParams

instance (clause : Clause) : Decidable clause.Fits :=
  decidable_of_iff (clause.depth ≤ maxDepth ∧ clause.params.length + 2 ≤ maxParams)
    ⟨fun h => ⟨h.1, h.2⟩, fun h => ⟨h.depth, h.params⟩⟩

/-- The ways in which the engine refuses a search. -/
def StoreError.IsRefusal (e : StoreError) : Prop :=
  e = .tooDeep maxDepth ∨ e = .tooManyParams ∨ e = .patternTooLong

/-- A statement for a page is prepared, and then the clause fits, or refused. -/
theorem Clause.fits_or_refused (clause : Clause) :
    clause.Fits ∨ ¬ clause.Fits ∧ ∃ e : StoreError, e.IsRefusal ∧ clause.prepare 2 = .error e := by
  by_cases hdepth : maxDepth < clause.depth
  · refine .inr ⟨fun h => Nat.not_lt.mpr h.depth hdepth, _, .inl rfl, ?_⟩
    rw [prepare, if_pos hdepth]
  · by_cases hparams : maxParams < clause.params.length + 2
    · refine .inr ⟨fun h => Nat.not_lt.mpr h.params hparams, _, .inr (.inl rfl), ?_⟩
      rw [prepare, if_neg hdepth, if_pos hparams]
    · exact .inl ⟨Nat.not_lt.mp hdepth, Nat.not_lt.mp hparams⟩

/-- A clause that fits is prepared, be it for a page or for a count. -/
theorem Clause.Fits.prepare {clause : Clause} (h : clause.Fits) {others : Nat}
    (hothers : others ≤ 2) : clause.prepare others = .ok () := by
  have hparams := h.params
  rw [Clause.prepare, if_neg (Nat.not_lt.mpr h.depth), if_neg (by omega)]

/-! ## Patterns -/

/-- The pattern of a needle is no longer than patterns may be. -/
def PatternFits (needle : String) : Prop := (foldedPattern needle).utf8ByteSize ≤ maxPatternBytes

instance (needle : String) : Decidable (PatternFits needle) :=
  inferInstanceAs (Decidable (_ ≤ _))

theorem length_le_utf8ByteSize (cs : List Char) :
    cs.length ≤ (String.ofList cs).utf8ByteSize := by
  induction cs with
  | nil => exact Nat.le_refl _
  | cons c cs ih =>
    have hsize := Char.utf8Size_pos c
    have hcons : String.ofList (c :: cs) = String.singleton c ++ String.ofList cs := by
      simp [String.ofList_cons]
    rw [hcons, String.utf8ByteSize_append, String.utf8ByteSize_singleton, List.length_cons]
    omega

theorem length_le_escapePattern (cs : List Char) : cs.length ≤ (escapePattern cs).length := by
  induction cs with
  | nil => exact Nat.le_refl _
  | cons c cs ih =>
    unfold escapePattern
    split <;> simp only [List.length_cons] <;> omega

/-- There is no pattern for a needle with so many characters that they leave no room for the marks
at its ends. -/
theorem not_patternFits {needle : String} (h : maxPatternBytes < needle.toList.length + 2) :
    ¬ PatternFits needle := by
  have hfolded := length_le_lowerFrom false needle.toList
  have hescaped := length_le_escapePattern (lowercase needle.toList)
  have hbytes := length_le_utf8ByteSize (likePattern (lowercase needle.toList))
  simp only [likePattern, lowercase, List.length_cons, List.length_append, List.length_nil]
    at hescaped hbytes
  simp only [PatternFits, foldedPattern, likePattern, lowercase]
  omega

/-- A word of one letter over and over. -/
def repeatedWord (n : Nat) : String := String.ofList (List.replicate n 'y')

theorem toList_repeatedWord (n : Nat) : (repeatedWord n).toList = List.replicate n 'y' :=
  String.toList_ofList

theorem not_patternFits_repeatedWord {n : Nat} (h : maxPatternBytes < n + 2) :
    ¬ PatternFits (repeatedWord n) :=
  not_patternFits (by rwa [toList_repeatedWord, List.length_replicate])

/-- A word that no pattern has room for. -/
def longWord : String := repeatedWord 49999

theorem not_patternFits_longWord : ¬ PatternFits longWord := by
  unfold longWord
  exact not_patternFits_repeatedWord (by decide)

/-- The needles that a predicate looks for. -/
def Predicate.needles : Predicate → List String
  | addressContains _ needles _ => needles
  | subjectContains needles _ => needles
  | attachmentNamed needles => needles
  | mentions terms => terms
  | _ => []

/-- The patterns of all needles fit. -/
def Predicate.PatternsFit (p : Predicate) : Prop := ∀ needle ∈ p.needles, PatternFits needle

instance (p : Predicate) : Decidable p.PatternsFit := List.decidableBAll _ _

/-- The patterns of all predicates fit. -/
def PredicateSet.PatternsFit (s : PredicateSet) : Prop := ∀ p ∈ s.toList, p.PatternsFit

instance (s : PredicateSet) : Decidable s.PatternsFit := List.decidableBAll _ _

/-- The clause of a set fits, and so does every pattern in it. -/
structure PredicateSet.Fits (s : PredicateSet) : Prop where
  clause : s.clause.Fits
  patterns : s.PatternsFit

instance (s : PredicateSet) : Decidable s.Fits :=
  decidable_of_iff (s.clause.Fits ∧ s.PatternsFit)
    ⟨fun h => ⟨h.1, h.2⟩, fun h => ⟨h.clause, h.patterns⟩⟩

/-- A search for all messages of a user fits. -/
theorem PredicateSet.fits_forUser (userId : String) : (forUser userId).Fits where
  clause := ⟨show 3 ≤ maxDepth by decide, show 1 + 2 ≤ maxParams by decide⟩
  patterns := by
    intro p hp
    rw [List.mem_singleton.mp hp]
    exact fun _ hneedle => nomatch hneedle

/-! ## Outcomes -/

/-- The outcome is the value; or the engine refuses to match a pattern, if one does not fit. -/
def Gives {α : Type} (fit : Prop) (x : Except StoreError α) (a : α) : Prop :=
  x = .ok a ∨ ¬ fit ∧ x = .error .patternTooLong

namespace Gives

variable {α β : Type} {fit fit' : Prop} {x : Except StoreError α} {a b : α}

theorem ok (a : α) : Gives fit (.ok a) a := .inl rfl

theorem refused (h : ¬ fit) : Gives fit (.error .patternTooLong) a := .inr ⟨h, rfl⟩

/-- Where all patterns fit, the outcome is the value. -/
theorem eq_ok (h : Gives fit x a) (hfit : fit) : x = .ok a :=
  h.resolve_right fun hrefused => hrefused.1 hfit

/-- No other value comes of it. -/
theorem eq_of_ok (h : Gives fit x a) (hok : x = .ok b) : b = a := by
  rcases h with h | ⟨-, h⟩
  · exact Except.ok.inj (hok.symm.trans h)
  · rw [hok] at h
    cases h

/-- Patterns that are among others fit with them. -/
theorem of_imp (h : Gives fit x a) (hfit : fit' → fit) : Gives fit' x a :=
  h.imp_right (And.imp_left (mt hfit))

theorem map (h : Gives fit x a) (f : α → β) : Gives fit (x.map f) (f a) := by
  rcases h with rfl | ⟨hfit, rfl⟩
  · exact ok _
  · exact refused hfit

theorem bind {f : α → Except StoreError β} {b : β} (h : Gives fit x a) (hf : Gives fit (f a) b) :
    Gives fit (x >>= f) b := by
  rcases h with rfl | ⟨hfit, rfl⟩
  · exact hf
  · exact refused hfit

theorem filterAuxM {p : α → Except StoreError Bool} {q : α → Bool} {l acc : List α}
    (h : ∀ x ∈ l, Gives fit (p x) (q x)) :
    Gives fit (l.filterAuxM p acc) ((l.filter q).reverse ++ acc) := by
  induction l generalizing acc with
  | nil => exact ok _
  | cons x l ih =>
    have htail (acc : List α) := @ih acc fun y hy => h y (List.mem_cons_of_mem _ hy)
    rw [List.filterAuxM]
    refine (h x List.mem_cons_self).bind ?_
    cases hq : q x
    · rw [List.filter_cons_of_neg (by simp [hq])]
      exact htail acc
    · rw [List.filter_cons_of_pos hq, List.reverse_cons, List.append_assoc]
      exact htail (x :: acc)

/-- What tests keep of a list, where each gives a value. -/
theorem filterM {p : α → Except StoreError Bool} {q : α → Bool} {l : List α}
    (h : ∀ x ∈ l, Gives fit (p x) (q x)) : Gives fit (l.filterM p) (l.filter q) := by
  have hkept : ((l.filter q).reverse ++ []).reverse = l.filter q := by
    rw [List.append_nil, List.reverse_reverse]
  rw [← hkept, List.filterM]
  exact (filterAuxM h).bind (ok _)

end Gives

end MailSearch
