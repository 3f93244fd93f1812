import MailSearch.Proofs.Calendar.ReadBack
import MailSearch.Proofs.Query.Grammar

/-!
# Written days

A term for a day writes it in ten characters, in one of two spellings: the year, the month and the
day, with dashes or with slashes between them. A `WrittenDay` is such a text with the day that it
stands for, which is one of a year of four digits.

A written day is read back as the midnight that starts it (`WrittenDay.readDay?_chars`), and in a
query it is one value (`WrittenDay.grammatical_term`). So a query for the days from one to another
sets both bounds to a midnight (`ParsedQuery.parse_days`).
-/

namespace MailSearch

open Text Calendar

/-- The mark between the numbers of a written day. -/
inductive DayMark where
  | dash
  | slash
  deriving DecidableEq, Repr

/-- The character of a mark. -/
def DayMark.char : DayMark → Char
  | dash => '-'
  | slash => '/'

theorem DayMark.exists_char_eq_iff {c : Char} :
    (∃ mark : DayMark, mark.char = c) ↔ c = '-' ∨ c = '/' := by
  constructor
  · rintro ⟨mark, rfl⟩
    cases mark with
    | dash => exact .inl rfl
    | slash => exact .inr rfl
  · rintro (rfl | rfl)
    · exact ⟨.dash, rfl⟩
    · exact ⟨.slash, rfl⟩

/-- A day as a query can write it. -/
structure WrittenDay where
  date : Date
  mark : DayMark
  /-- The year has four digits, and no sign. -/
  plainYear : 0 ≤ date.year ∧ date.year ≤ 9999 := by decide

namespace WrittenDay

variable (w : WrittenDay)

/-- The ten characters of a day. -/
def chars : List Char :=
  padded 4 w.date.year.natAbs ++ w.mark.char ::
    (padded 2 w.date.month ++ w.mark.char :: padded 2 w.date.day)

/-- The text of a day. -/
def text : String := String.ofList w.chars

/-! ## Reading a day -/

theorem exists_year : ∃ y₁ y₂ y₃ y₄, padded 4 w.date.year.natAbs = [y₁, y₂, y₃, y₄] := by
  have hyear : w.date.year.natAbs < 10 ^ 4 := by
    have := w.plainYear
    omega
  exact List.length_eq_four.mp (length_padded (by decide) hyear)

theorem exists_pair {n : Nat} (hn : n < 10 ^ 2) : ∃ a b, padded 2 n = [a, b] :=
  List.length_eq_two.mp (length_padded (by decide) hn)

/-- A written day is read as the midnight that starts it. -/
theorem readDay?_chars : readDay? w.chars = some (Timestamp.startOfDay w.date) := by
  obtain ⟨y₁, y₂, y₃, y₄, hyear⟩ := w.exists_year
  obtain ⟨m₁, m₂, hmonth⟩ := exists_pair w.date.month_lt
  obtain ⟨d₁, d₂, hday⟩ := exists_pair (n := w.date.day) (by have := w.date.day_le; omega)
  have hmark : w.mark.char = '-' ∨ w.mark.char = '/' := DayMark.exists_char_eq_iff.mp ⟨_, rfl⟩
  have hdigits : [y₁, y₂, y₃, y₄, m₁, m₂, d₁, d₂].all Char.isDigit = true := by
    have hall : ∀ c ∈ padded 4 w.date.year.natAbs ++ (padded 2 w.date.month ++ padded 2 w.date.day),
        c.isDigit = true := by
      simp only [List.mem_append]
      rintro c (h | h | h) <;> exact isDigit_of_mem_padded h
    rw [hyear, hmonth, hday] at hall
    exact List.all_eq_true.mpr hall
  have hvalue : (digitsValue [y₁, y₂, y₃, y₄] : Int) = w.date.year := by
    have := w.plainYear.1
    rw [← hyear, digitsValue_padded]
    omega
  have hchars : w.chars =
      [y₁, y₂, y₃, y₄, w.mark.char, m₁, m₂, w.mark.char, d₁, d₂] := by
    rw [chars, hyear, hmonth, hday]
    rfl
  rw [hchars, readDay?, if_pos ⟨hmark, rfl, hdigits⟩, hvalue, ← hmonth, ← hday, digitsValue_padded,
    digitsValue_padded, Date.ofYmd?_self, Option.map_some]

/-! ## A day in a query -/

theorem isDigit_or_mark_of_mem_chars : ∀ c ∈ w.chars, c.isDigit = true ∨ c = w.mark.char := by
  intro c hc
  simp only [chars, List.mem_append, List.mem_cons] at hc
  rcases hc with h | h | h | h | h
  · exact .inl (isDigit_of_mem_padded h)
  · exact .inr h
  · exact .inl (isDigit_of_mem_padded h)
  · exact .inr h
  · exact .inl (isDigit_of_mem_padded h)

theorem isBlank_of_mem_chars : ∀ c ∈ w.chars, isBlank c = false := by
  intro c hc
  rcases w.isDigit_or_mark_of_mem_chars c hc with hdigit | rfl
  · exact isBlank_of_isDigit hdigit
  · cases w.mark <;> decide

theorem chars_ne_nil : w.chars ≠ [] :=
  List.append_ne_nil_of_right_ne_nil _ (List.cons_ne_nil _ _)

/-- The term of an operator with the day for its value. -/
def term (op : Operator) : Token := .term false op.keyword.toList op (.bare w.chars)

/-- The term of an operator that takes no phrase is a term of the grammar. -/
theorem grammatical_term {op : Operator} (hop : op.takesPhrase = false) :
    (w.term op).Grammatical := by
  refine .plain ?_ w.chars_ne_nil w.isBlank_of_mem_chars fun h => ?_
  · cases op <;> decide
  · rw [← Token.takesPhrase_iff, hop] at h
    cases h

end WrittenDay

/-- A query for the days from one to another sets its bounds to the midnights that start them. -/
theorem ParsedQuery.parse_days (now : Timestamp) (a b : WrittenDay) :
    parse now ("after:" ++ a.text ++ " before:" ++ b.text) =
      { after := some (.startOfDay a.date), before := some (.startOfDay b.date) } := by
  have hsentence : Token.Sentence [a.term .after, b.term .before]
      ((a.term .after).source ++ ([' '] ++ (b.term .before).source)) :=
    .cons (a.grammatical_term rfl) (by decide) Token.isBlank_of_mem_space
      (.last (b.grammatical_term rfl))
  have hquery : ("after:" ++ a.text ++ " before:" ++ b.text).toList =
      (a.term .after).source ++ ([' '] ++ (b.term .before).source) := by
    simp [WrittenDay.term, WrittenDay.text, Token.source, TermValue.source, Operator.keyword]
  rw [parse, hquery, hsentence.scan]
  simp [ofTokens, step, add?, WrittenDay.term, TermValue.content?, WrittenDay.readDay?_chars,
    phraseText?, wordText?]

end MailSearch
