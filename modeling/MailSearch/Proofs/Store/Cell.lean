import MailSearch.Proofs.Json.RoundTrip
import MailSearch.Store.Row

/-!
# Stored values read back

* `Cell.compare_text_of_lt`, `Cell.compare_text_self`, `Cell.compare_text_of_gt`: texts are
  compared as strings.
* `Cell.texts_ofTexts` and `Cell.items?_ofTexts`: a stored list of texts holds those texts.
* `Cell.readText?_ofText?` and its like: a stored value is read as what was stored.
-/

namespace MailSearch.Cell

/-! ## Order -/

theorem compare_text_of_lt {s t : String} (h : s < t) : (text s).compare (text t) = .lt := by
  have hne : s ≠ t := by
    rintro rfl
    exact String.lt_irrefl _ h
  simp only [compare]
  rw [if_neg hne, if_pos h]

theorem compare_text_of_gt {s t : String} (h : t < s) : (text s).compare (text t) = .gt := by
  have hne : s ≠ t := by
    rintro rfl
    exact String.lt_irrefl _ h
  have hasymm : ¬ s < t := fun h' => String.lt_irrefl _ (String.lt_trans h h')
  simp only [compare]
  rw [if_neg hne, if_neg hasymm]

theorem compare_text_self (s : String) : (text s).compare (text s) = .eq := by
  simp only [compare, if_true]

/-- Only equal texts compare as equal. -/
theorem compare_text_eq_iff {s t : String} : (text s).compare (text t) = .eq ↔ s = t := by
  constructor
  · intro h
    rcases Decidable.em (s = t) with he | hne
    · exact he
    · simp only [compare] at h
      rw [if_neg hne] at h
      split at h <;> cases h
  · rintro rfl
    exact compare_text_self s

/-- What compares as equal to a text is that text. -/
theorem eq_of_compare_text_eq {v : Cell} {t : String} (h : v.compare (text t) = .eq) :
    v = text t := by
  cases v with
  | null => cases h
  | integer n => cases h
  | real n scale => cases h
  | text s => rw [compare_text_eq_iff.mp h]

/-! ## Lists -/

/-- A stored list of texts is read as those texts. -/
theorem texts_ofTexts (values : List String) : (ofTexts values).texts = values := by
  simp only [ofTexts, texts]
  rw [Json.read?_compact (Json.exact_ofTexts values), Option.bind_some, Json.asTexts?_ofTexts]
  rfl

/-- A stored list of texts is unpacked into those texts. -/
theorem items?_ofTexts (values : List String) :
    (ofTexts values).items? = some (values.map text) := by
  simp only [ofTexts, items?]
  rw [Json.read?_compact (Json.exact_ofTexts values), Option.map_some]
  simp only [Json.ofTexts, List.map_map]
  rfl

/-! ## Reading -/

variable (index : Nat) (column : String)

theorem ofText?_eq_text_iff {s : Option String} {t : String} :
    ofText? s = .text t ↔ s = some t := by
  cases s with
  | none => exact iff_of_false (fun h => nomatch h) fun h => nomatch h
  | some s =>
    exact ⟨fun h => congrArg some (text.inj h), fun h => congrArg text (Option.some.inj h)⟩

theorem readText?_ofText? (s : Option String) :
    (ofText? s).readText? index column = .ok s := by
  cases s <;> rfl

theorem readText?_ofTexts (values : List String) :
    (ofTexts values).readText? index column = .ok (some (Json.ofTexts values).compact) :=
  rfl

theorem readBool_ofBool (b : Bool) : (ofBool b).readBool index column = .ok b := by
  cases b <;> rfl

end MailSearch.Cell
