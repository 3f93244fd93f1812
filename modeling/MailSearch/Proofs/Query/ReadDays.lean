import MailSearch.Proofs.Query.WrittenDays
import MailSearch.Proofs.Text.Bytes

/-!
# Days are read exactly

A day is written in ten characters: four digits, a mark, two digits, the same mark and two digits
(`WritesDay`). A text is read as a midnight exactly if it writes a day, and then as the midnight of
that day (`days_read_exactly`).

* `writesDay_iff`: a day of a year of four digits has two such texts, and no other day has one.
* `readDay?_eq_some_iff`: the texts that are read, and as what.
* `readDay?_utf8`: the bytes of a text, taken for characters, are read as the text itself. So the
  places of the digits and the marks can be counted in bytes.
-/

namespace MailSearch

open Text Calendar

/-- The text writes the day: its year in four digits, its month and its day in two, with one of the
two marks between them. -/
def WritesDay (cs : List Char) (d : Date) : Prop :=
  ∃ (mark : Char) (year month day : List Char) (n : Nat),
    (mark = '-' ∨ mark = '/') ∧ cs = year ++ mark :: (month ++ mark :: day) ∧
      year.length = 4 ∧ WritesNumber year n ∧ d.year = n ∧
      month.length = 2 ∧ WritesNumber month d.month ∧
      day.length = 2 ∧ WritesNumber day d.day

theorem WrittenDay.toNat_lt_of_mem_chars (w : WrittenDay) : ∀ c ∈ w.chars, c.toNat < 128 := by
  intro c hc
  rcases w.isDigit_or_mark_of_mem_chars c hc with hdigit | rfl
  · exact Nat.lt_of_le_of_lt (Char.isDigit_iff_toNat.mp hdigit).2 (by decide)
  · cases w.mark <;> decide

section

variable {cs : List Char} {d : Date} {t : Timestamp}

/-- A day has a text exactly if its year has four digits: one with dashes, and one with slashes. -/
theorem writesDay_iff : WritesDay cs d ↔ ∃ w : WrittenDay, w.date = d ∧ cs = w.chars := by
  constructor
  · rintro ⟨c, year, month, day, n, hmark, rfl, hyear4, hyear, hn, hmonth2, hmonth, hday2, hday⟩
    obtain ⟨mark, rfl⟩ := DayMark.exists_char_eq_iff.mpr hmark
    have hlt : n < 10 ^ 4 := hyear4 ▸ hyear.lt
    have habs : d.year.natAbs = n := by omega
    refine ⟨⟨d, mark, by omega⟩, rfl, ?_⟩
    rw [WrittenDay.chars, habs, ← hyear.eq_padded hyear4, ← hmonth.eq_padded hmonth2,
      ← hday.eq_padded hday2]
  · rintro ⟨w, rfl, rfl⟩
    obtain ⟨hfrom, hto⟩ := w.plainYear
    have hmonth := w.date.month_lt
    have hday := w.date.day_le
    refine ⟨w.mark.char, padded 4 w.date.year.natAbs, padded 2 w.date.month, padded 2 w.date.day,
      w.date.year.natAbs, DayMark.exists_char_eq_iff.mp ⟨_, rfl⟩, rfl, ?_,
      writesNumber_padded (by decide) _, by omega, ?_, writesNumber_padded (by decide) _, ?_,
      writesNumber_padded (by decide) _⟩
    · exact length_padded (by decide) (by omega)
    · exact length_padded (by decide) hmonth
    · exact length_padded (by decide) (by omega)

/-- What is read as a midnight writes the day that it starts. -/
theorem writesDay_of_readDay? (h : readDay? cs = some t) :
    ∃ d, WritesDay cs d ∧ t = .startOfDay d := by
  unfold readDay? at h
  split at h
  · rename_i y₁ y₂ y₃ y₄ mark m₁ m₂ mark' d₁ d₂
    split_ifs at h with hshape
    obtain ⟨hmark, rfl, hdigits⟩ := hshape
    obtain ⟨d, hd, rfl⟩ := Option.map_eq_some_iff.mp h
    obtain ⟨hyear, hmonth, hday⟩ := Date.ofYmd?_eq_some_iff.mp hd
    have hall : ∀ c ∈ [y₁, y₂, y₃, y₄] ++ ([m₁, m₂] ++ [d₁, d₂]), c.isDigit = true :=
      List.all_eq_true.mp hdigits
    rw [List.forall_mem_append, List.forall_mem_append] at hall
    obtain ⟨hyears, hmonths, hdays⟩ := hall
    exact ⟨d, ⟨mark', [y₁, y₂, y₃, y₄], [m₁, m₂], [d₁, d₂], _, hmark, rfl,
      rfl, ⟨nofun, hyears, rfl⟩, hyear, rfl, ⟨nofun, hmonths, hmonth.symm⟩,
      rfl, ⟨nofun, hdays, hday.symm⟩⟩, rfl⟩
  · cases h

/-- A text is read as the midnight of the day that it writes, and no other text is read. -/
theorem readDay?_eq_some_iff :
    readDay? cs = some t ↔ ∃ d, WritesDay cs d ∧ t = .startOfDay d := by
  refine ⟨writesDay_of_readDay?, ?_⟩
  rintro ⟨d, hwrites, rfl⟩
  obtain ⟨w, rfl, rfl⟩ := writesDay_iff.mp hwrites
  exact w.readDay?_chars

/-- What is read as a day is ASCII. -/
theorem toNat_lt_of_readDay? (h : readDay? cs = some t) : ∀ c ∈ cs, c.toNat < 128 := by
  obtain ⟨d, hwrites, -⟩ := writesDay_of_readDay? h
  obtain ⟨w, -, rfl⟩ := writesDay_iff.mp hwrites
  exact w.toNat_lt_of_mem_chars

end

/-- The bytes of a text, each taken for the character of its number, are read as the text itself. -/
theorem readDay?_utf8 (s : String) : readDay? ((utf8 s).map Char.ofUInt8) = readDay? s.toList := by
  ext t
  constructor
  · intro h
    have hbytes : ∀ byte ∈ utf8 s, byte.toNat < 128 := fun byte hbyte =>
      toNat_lt_of_readDay? h _ (List.mem_map_of_mem hbyte)
    rwa [utf8_of_ascii (ascii_of_utf8 hbytes)] at h
  · intro h
    rwa [utf8_of_ascii (toNat_lt_of_readDay? h)]

/-- **Days are read exactly.** A text is read as a point in time exactly if it writes a day of the
years 0000 to 9999, and the point is the midnight that starts the day. It makes no difference
whether the bytes of the text are looked at or its characters. Of two written days, with whatever
marks, both are read, and as one point exactly if they are one day. -/
theorem days_read_exactly :
    (∀ (s : String) (t : Timestamp), readDay? s.toList = some t ↔
      ∃ d : Date, 0 ≤ d.year ∧ d.year ≤ 9999 ∧ WritesDay s.toList d ∧ t = .startOfDay d) ∧
    (∀ s : String, readDay? ((utf8 s).map Char.ofUInt8) = readDay? s.toList) ∧
    ∀ v w : WrittenDay, ∃ t u, readDay? v.chars = some t ∧ readDay? w.chars = some u ∧
      (t = u ↔ v.date = w.date) := by
  refine ⟨fun s t => ?_, readDay?_utf8, fun v w => ?_⟩
  · rw [readDay?_eq_some_iff]
    constructor
    · rintro ⟨d, hwrites, ht⟩
      obtain ⟨w, rfl, -⟩ := writesDay_iff.mp hwrites
      exact ⟨w.date, w.plainYear.1, w.plainYear.2, hwrites, ht⟩
    · rintro ⟨d, -, -, hwrites, ht⟩
      exact ⟨d, hwrites, ht⟩
  · exact ⟨_, _, v.readDay?_chars, w.readDay?_chars, congrArg Timestamp.date,
      congrArg Timestamp.startOfDay⟩

/-- The last day of February in a leap year and in the year before. -/
example : readDay? "2024/02/29".toList = some (.startOfDay ⟨2024, 2, 29, by decide⟩) ∧
    readDay? "2023/02/29".toList = none := by decide

end MailSearch
