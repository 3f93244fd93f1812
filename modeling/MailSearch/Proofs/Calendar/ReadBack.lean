import MailSearch.Calendar.Format
import MailSearch.Calendar.Reading
import MailSearch.Proofs.Calendar.DayNumber
import MailSearch.Proofs.Data.Outcome
import MailSearch.Proofs.Text.Digits

/-!
# Written times read back

* `Timestamp.carried_eq_iff`: the times that are written like no other are the regular ones.
* `resolve_parts`: the parts that a point in time is written with stand for the regular time that is
  written like it.
* `Timestamp.HasPlainYear`: the year is written with four digits and no sign.
* `readStored_stored`: the stored form of a time with a plain year is read as that regular time.
* `readTimestamp?_text`: so is the form of answers, whatever the year.
* `readDate?_text`: the text of a day is read as the day.
* `isRegular_of_readStored`: whatever text a stored form is read from, the time is regular.
-/

namespace MailSearch.Calendar

open MailSearch.Text

/-! ## Steps of the readers -/

theorem length_le_byteLength (cs : List Char) : cs.length ≤ byteLength cs := by
  induction cs with
  | nil => exact Nat.le_refl _
  | cons c cs ih =>
    have := Char.utf8Size_pos c
    simp only [byteLength, List.length_cons] at *
    omega

/-- Digits are read up to the most that are asked for, or to where they end. -/
theorem scanNumber_append {least most : Nat} {digits rest : List Char}
    (hd : ∀ c ∈ digits, c.isDigit = true) (hleast : least ≤ digits.length)
    (hmost : digits.length = most ∨ (digits.length ≤ most ∧ NoDigit rest)) :
    scanNumber least most (digits ++ rest) = .ok (digitsValue digits, rest) := by
  have htake : ((digits ++ rest).take most).takeWhile Char.isDigit = digits := by
    rcases hmost with rfl | ⟨hle, hrest⟩
    · rw [List.take_left]
      have happend : (digits ++ []).takeWhile Char.isDigit = digits ++ [].takeWhile Char.isDigit :=
        List.takeWhile_append_of_pos hd
      simpa using happend
    · rw [List.take_append, List.take_of_length_le hle, List.takeWhile_append_of_pos hd]
      have hnil : (rest.take (most - digits.length)).takeWhile Char.isDigit = [] := by
        cases rest with
        | nil => simp
        | cons c cs =>
          have hc : c.isDigit = false := hrest c (by simp)
          cases most - digits.length <;> simp [hc]
      rw [hnil, List.append_nil]
  have hbytes := length_le_byteLength (digits ++ rest)
  rw [List.length_append] at hbytes
  unfold scanNumber
  simp only [htake]
  rw [if_neg (by omega), if_neg (by omega), List.drop_left]

theorem scanNumber_padded {width n : Nat} (hw : 0 < width) (hn : n < 10 ^ width)
    (rest : List Char) : scanNumber width width (padded width n ++ rest) = .ok (n, rest) := by
  have hlen := length_padded hw hn
  rw [scanNumber_append (fun _ => isDigit_of_mem_padded) (by omega) (.inl hlen),
    digitsValue_padded]

theorem scanWithin_padded {width n low high : Nat} (hw : 0 < width) (hn : n < 10 ^ width)
    (hlow : low ≤ n) (hhigh : n ≤ high) (rest : List Char) :
    scanWithin width width low high (padded width n ++ rest) = .ok (n, rest) := by
  unfold scanWithin
  rw [scanNumber_padded hw hn]
  exact if_pos ⟨hlow, hhigh⟩

theorem scanChar_cons (c : Char) (cs : List Char) : scanChar c (c :: cs) = .ok ((), cs) :=
  if_pos rfl

theorem dropWhile_isDigit_of_noDigit {cs : List Char} (h : NoDigit cs) :
    cs.dropWhile Char.isDigit = cs := by
  cases cs with
  | nil => rfl
  | cons c cs => exact List.dropWhile_cons_of_neg (by simp [h c (by simp)])

/-- Digits after a point are read as a fraction of a second. -/
theorem scanFraction_padded {width n : Nat} (hw : 0 < width) (h9 : width ≤ 9)
    (hn : n < 10 ^ width) {rest : List Char} (hrest : NoDigit rest) :
    scanFraction ('.' :: (padded width n ++ rest)) = .ok (n * 10 ^ (9 - width), rest) := by
  have hlen := length_padded hw hn
  have hscan : scanNumber 1 9 (padded width n ++ rest) = .ok (digitsValue (padded width n), rest) :=
    scanNumber_append (fun _ => isDigit_of_mem_padded) (by omega) (.inr ⟨by omega, hrest⟩)
  simp only [scanFraction, hscan, bind, Except.bind, digitsValue_padded, List.length_append]
  rw [Nat.add_sub_cancel, hlen, tenTo_eq, dropWhile_isDigit_of_noDigit hrest]

/-- A padded number starts with a digit. -/
theorem exists_padded {width : Nat} (hw : 0 < width) (n : Nat) :
    ∃ c cs, padded width n = c :: cs ∧ c.isDigit = true := by
  have hlen := le_length_padded width n
  obtain ⟨c, cs, hcs⟩ := List.exists_cons_of_length_pos (l := padded width n) (by omega)
  have hmem : c ∈ padded width n := by
    rw [hcs]
    exact List.mem_cons_self
  exact ⟨c, cs, hcs, isDigit_of_mem_padded hmem⟩

/-! ## Parts of a time -/

theorem Clock.of?_self (t : Clock) : Clock.of? t.second t.nano = some t := dif_pos t.isClock

theorem Clock.hour_lt (t : Clock) : t.hour < 24 := by
  have := t.isClock.1
  simp only [secondsPerDay, hour] at *
  omega

theorem Clock.minute_lt (t : Clock) : t.minute < 60 := by
  unfold minute
  omega

theorem Clock.writtenSecond_le (t : Clock) : t.writtenSecond ≤ 60 := by
  obtain ⟨-, hnano⟩ := t.isClock
  simp only [writtenSecond, nanosPerSecond] at *
  omega

theorem Clock.fraction_lt (t : Clock) : t.fraction < 10 ^ 9 := by
  simp only [fraction, nanosPerSecond]
  omega

/-- The seconds of a day that a time of day is written with, a leap second aside. -/
theorem Clock.second_eq (t : Clock) :
    t.hour * 3600 + t.minute * 60 + t.second % 60 = t.second := by
  simp only [hour, minute]
  omega

/-! ### Regular times of day -/

namespace Clock

theorem isRegular_iff {t : Clock} :
    t.IsRegular ↔ (nanosPerSecond ≤ t.nano → t.second % 60 = 59) := by
  unfold IsRegular isLeap
  rw [decide_eq_true_eq]

theorem carried_of_isRegular {t : Clock} (h : t.IsRegular) : t.carried = t := dif_pos h

/-- A leap second within a minute is written as the second that follows. -/
theorem carried_of_not_isRegular {t : Clock} (h : ¬ t.IsRegular) :
    t.carried.second = t.second + 1 ∧ t.carried.nano = t.nano - nanosPerSecond := by
  rw [carried, dif_neg h]
  exact ⟨rfl, rfl⟩

theorem isRegular_carried (t : Clock) : t.carried.IsRegular := by
  by_cases h : t.IsRegular
  · rwa [carried_of_isRegular h]
  · have hnano := t.isClock.2
    have hcarried := (carried_of_not_isRegular h).2
    rw [isRegular_iff]
    omega

/-- A time of day and the regular one that is written like it have the same written parts. -/
theorem parts_carried (t : Clock) : t.carried.hour = t.hour ∧ t.carried.minute = t.minute ∧
    t.carried.writtenSecond = t.writtenSecond ∧ t.carried.fraction = t.fraction := by
  by_cases h : t.IsRegular
  · rw [carried_of_isRegular h]
    exact ⟨rfl, rfl, rfl, rfl⟩
  · have hnano := t.isClock.2
    obtain ⟨hsecond, hcarried⟩ := carried_of_not_isRegular h
    rw [isRegular_iff] at h
    simp only [hour, minute, writtenSecond, fraction, hsecond, hcarried, nanosPerSecond] at *
    omega

theorem chars_carried (t : Clock) : t.carried.chars = t.chars := by
  obtain ⟨hhour, hminute, hsecond, -⟩ := t.parts_carried
  simp only [chars, hhour, hminute, hsecond]

/-- Of the regular times of day, only those in a leap second are written with second 60. -/
theorem written_cases {t : Clock} (h : t.IsRegular) :
    (t.writtenSecond = 60 ∧ t.second % 60 = 59 ∧ nanosPerSecond + t.fraction = t.nano) ∨
    (t.writtenSecond ≠ 60 ∧ t.writtenSecond = t.second % 60 ∧ t.fraction = t.nano) := by
  have hnano := t.isClock.2
  rw [isRegular_iff] at h
  simp only [writtenSecond, fraction, nanosPerSecond] at *
  by_cases hleap : 1000000000 ≤ t.nano
  · have := h hleap
    omega
  · omega

/-- The hour, minute, second and fraction that a regular time of day is written with stand for
it. -/
theorem ofHms?_parts {t : Clock} (h : t.IsRegular) :
    ofHms? t.hour t.minute t.writtenSecond t.fraction = some t := by
  have hsum := t.second_eq
  unfold ofHms?
  rw [if_pos ⟨t.hour_lt, t.minute_lt, t.writtenSecond_le, t.fraction_lt⟩]
  rcases written_cases h with ⟨hw, hs, hf⟩ | ⟨hw, hs, hf⟩
  · rw [if_pos hw, hf, show t.hour * 3600 + t.minute * 60 + 59 = t.second by omega]
    exact t.of?_self
  · rw [if_neg hw, hf, show t.hour * 3600 + t.minute * 60 + t.writtenSecond = t.second by omega]
    exact t.of?_self

end Clock

namespace Timestamp

theorem carried_of_isRegular {t : Timestamp} (h : t.IsRegular) : t.carried = t := by
  rw [carried, Clock.carried_of_isRegular h]

theorem isRegular_carried (t : Timestamp) : t.carried.IsRegular := t.clock.isRegular_carried

/-- A point in time is stored as the regular one that is written like it. -/
theorem stored_carried (t : Timestamp) : t.carried.stored = t.stored := by
  simp only [stored, storedChars, carried, t.clock.chars_carried, t.clock.parts_carried.2.2.2]

theorem text_carried (t : Timestamp) : t.carried.text = t.text := by
  simp only [text, carried, t.clock.chars_carried, t.clock.parts_carried.2.2.2]

end Timestamp

/-- The parts that a regular point in time is written with stand for it. -/
theorem resolve_parts {t : Timestamp} (h : t.IsRegular) :
    resolve t.date.year t.date.month t.date.day t.clock.hour t.clock.minute t.clock.writtenSecond
      t.clock.fraction 0 = .ok t := by
  have hsecond := t.clock.isClock.1
  unfold resolve
  simp only [Date.ofYmd?_self, Clock.ofHms?_parts h]
  rw [if_pos (by decide)]
  have hof : Timestamp.ofSeconds? t.date ((t.clock.second : Int) - 0) t.clock.nano = some t := by
    unfold Timestamp.ofSeconds?
    simp only [secondsPerDay] at *
    rw [show ((t.clock.second : Int) - 0) / (86400 : Nat) = 0 by omega,
      show (((t.clock.second : Int) - 0) % (86400 : Nat)).toNat = t.clock.second by omega,
      Date.addDays?_zero, Clock.of?_self]
    rfl
  rw [hof]

theorem Date.month_lt (d : Date) : d.month < 10 ^ 2 := by
  have := d.isDay.2.2.2.1
  omega

theorem Date.day_le (d : Date) : d.day ≤ 31 := by
  obtain ⟨-, -, -, -, -, h⟩ := d.isDay
  unfold daysInMonth at h
  split at h
  · split at h <;> omega
  all_goals omega

/-! ## The stored form -/

/-- The year is written with four digits and no sign. -/
def Timestamp.HasPlainYear (t : Timestamp) : Prop := 0 ≤ t.date.year ∧ t.date.year ≤ 9999

instance (t : Timestamp) : Decidable t.HasPlainYear := inferInstanceAs (Decidable (_ ∧ _))

theorem yearText_of_plain {t : Timestamp} (h : t.HasPlainYear) :
    yearText t.date.year = padded 4 t.date.year.natAbs :=
  if_pos h

/-- The stored form shows whether the year is plain: it starts with a digit, and not with a sign. -/
theorem hasPlainYear_of_stored_eq {a b : Timestamp} (h : a.stored = b.stored)
    (hb : b.HasPlainYear) : a.HasPlainYear := by
  apply Decidable.byContradiction
  intro ha
  obtain ⟨c, cs, hcs, hc⟩ := exists_padded (Nat.zero_lt_succ 3) b.date.year.natAbs
  have hsign : yearText a.date.year =
      (if a.date.year < 0 then '-' else '+') :: padded 4 a.date.year.natAbs := if_neg ha
  have hchars := congrArg String.toList h
  simp only [Timestamp.stored, String.toList_ofList, Timestamp.storedChars, Date.chars, hsign,
    yearText_of_plain hb, hcs, List.cons_append, List.cons.injEq] at hchars
  rw [← hchars.1] at hc
  split at hc <;> cases hc

theorem readStored_stored_of_isRegular {t : Timestamp} (h : t.HasPlainYear)
    (hregular : t.IsRegular) : readStored t.stored = .ok t := by
  have hyear : t.date.year.natAbs < 10 ^ 4 := by
    have := h.1
    have := h.2
    omega
  obtain ⟨-, -, hm1, hm12, hd1, -⟩ := t.date.isDay
  have hday := t.date.day_le
  have hhour := t.clock.hour_lt
  have hminute := t.clock.minute_lt
  have hsecond := t.clock.writtenSecond_le
  have hresolve := resolve_parts hregular
  unfold readStored Timestamp.stored
  rw [String.toList_ofList]
  simp only [Timestamp.storedChars, Date.chars, Clock.chars, yearText_of_plain h,
    List.append_assoc, List.cons_append]
  unfold readStoredChars
  rw [scanNumber_padded (by decide) hyear]
  simp only [bind, Except.bind, scanChar_cons]
  rw [scanWithin_padded (by decide) (by omega) hm1 hm12]
  simp only [scanChar_cons]
  rw [scanWithin_padded (by decide) (by omega) hd1 hday]
  simp only [scanTimeMark, true_or, if_true]
  rw [scanWithin_padded (by decide) (by omega) (by omega) (by omega)]
  simp only [scanChar_cons]
  rw [scanWithin_padded (by decide) (by omega) (by omega) (by omega)]
  simp only [scanChar_cons]
  rw [scanWithin_padded (by decide) (by omega) (by omega) (by omega)]
  simp only
  rw [scanFraction_padded (by decide) (by decide) t.clock.fraction_lt (noDigit_cons (by decide))]
  simp only [scanOffset]
  rw [if_neg (by decide), if_neg (by simp), Nat.sub_self, Nat.pow_zero, Nat.mul_one,
    Int.natAbs_of_nonneg h.1]
  exact hresolve

/-- The stored form of a time with a plain year is read as the regular time that is written like
it. -/
theorem readStored_stored {t : Timestamp} (h : t.HasPlainYear) :
    readStored t.stored = .ok t.carried := by
  rw [← t.stored_carried]
  exact readStored_stored_of_isRegular h t.isRegular_carried

/-! ## Texts given by a caller -/

theorem isBlank_of_isDigit {c : Char} (h : c.isDigit = true) : isBlank c = false := by
  simp only [Char.isDigit, Bool.and_eq_true, decide_eq_true_eq, UInt32.le_iff_toNat_le] at h
  have hlo : 48 ≤ c.toNat := h.1
  have hhi : c.toNat ≤ 57 := h.2
  rw [← Bool.not_eq_true]
  intro hblank
  simp only [isBlank, Bool.or_eq_true, Bool.and_eq_true, decide_eq_true_eq, beq_iff_eq] at hblank
  omega

theorem trimLeft_padded {width n : Nat} (hw : 0 < width) (rest : List Char) :
    trimLeft (padded width n ++ rest) = padded width n ++ rest := by
  obtain ⟨c, cs, hcs, hc⟩ := exists_padded hw n
  rw [hcs, List.cons_append, trimLeft_cons (isBlank_of_isDigit hc)]

/-- A year is read with its sign, if it has one, up to where its digits end. -/
theorem scanYear_yearText (year : Int) {rest : List Char} (hrest : NoDigit rest) :
    scanYear (yearText year ++ rest) = .ok (year, rest) := by
  have hpos := le_length_padded 4 year.natAbs
  have hdigits : ∀ c ∈ padded 4 year.natAbs, c.isDigit = true := fun _ => isDigit_of_mem_padded
  unfold yearText
  by_cases hplain : 0 ≤ year ∧ year ≤ 9999
  · have hlen : (padded 4 year.natAbs).length = 4 := length_padded (by decide) (by omega)
    have hscan : scanNumber 1 4 (padded 4 year.natAbs ++ rest) = .ok (_, rest) :=
      scanNumber_append hdigits (by omega) (.inl hlen)
    obtain ⟨c, cs, hcs, hc⟩ := exists_padded (Nat.zero_lt_succ 3) year.natAbs
    rw [if_pos hplain]
    unfold scanYear
    rw [trimLeft_padded (by decide)]
    split
    · rename_i heq
      rw [hcs, List.cons_append] at heq
      rw [(List.cons.inj heq).1] at hc
      cases hc
    · rename_i heq
      rw [hcs, List.cons_append] at heq
      rw [(List.cons.inj heq).1] at hc
      cases hc
    · simp only [hscan, bind, Except.bind, digitsValue_padded, Int.natAbs_of_nonneg hplain.1]
  · have hscan : scanNumber 1 (padded 4 year.natAbs ++ rest).length
        (padded 4 year.natAbs ++ rest) = .ok (_, rest) :=
      scanNumber_append hdigits (by omega) (.inr ⟨by rw [List.length_append]; omega, hrest⟩)
    rw [if_neg hplain]
    unfold scanYear
    by_cases hneg : year < 0
    · rw [if_pos hneg, List.cons_append, trimLeft_cons (by decide)]
      simp only [hscan, bind, Except.bind, digitsValue_padded]
      rw [show (-(year.natAbs : Int)) = year by omega]
    · rw [if_neg hneg, List.cons_append, trimLeft_cons (by decide)]
      simp only [hscan, bind, Except.bind, digitsValue_padded]
      rw [Int.natAbs_of_nonneg (by omega)]

theorem scanPart_padded {n : Nat} (hn : n < 10 ^ 2) (rest : List Char) :
    scanPart (padded 2 n ++ rest) = .ok (n, rest) := by
  have hlen : (padded 2 n).length = 2 := length_padded (by decide) hn
  unfold scanPart
  rw [trimLeft_padded (by decide),
    scanNumber_append (fun _ => isDigit_of_mem_padded) (by omega) (.inl hlen), digitsValue_padded]

theorem scanDate_chars (loose : Bool) (d : Date) (rest : List Char) :
    scanDate loose (d.chars ++ rest) = .ok ((d.year, d.month, d.day), rest) := by
  have hmonth := d.month_lt
  have hday := d.day_le
  have hskip : ∀ cs, (if loose then trimLeft else id) ('-' :: cs) = '-' :: cs := by
    intro cs
    cases loose
    · rfl
    · exact trimLeft_cons (by decide) cs
  unfold scanDate
  simp only [Date.chars, List.append_assoc, List.cons_append]
  rw [scanYear_yearText d.year (noDigit_cons (by decide))]
  simp only [bind, Except.bind, hskip, scanChar_cons, scanPart_padded hmonth]
  rw [scanPart_padded (by omega)]

/-- The text of a day is read as it. -/
theorem readDate?_text (d : Date) : readDate? d.text = some d := by
  have hscan := scanDate_chars true d []
  rw [List.append_nil] at hscan
  unfold readDate? readDay? Date.text
  rw [String.toList_ofList, hscan]
  exact Date.ofYmd?_self d

/-- Two days with one text are equal. -/
theorem Date.text_inj {a b : Date} (h : a.text = b.text) : a = b := by
  have := readDate?_text a
  rw [h, readDate?_text] at this
  exact (Option.some.inj this).symm

/-- The digits that are left out of a fraction are zeros. -/
theorem scanFraction_fractionText {nanos : Nat} (hn : nanos < 10 ^ 9) {rest : List Char}
    (hrest : NoDigit rest) (hpoint : rest.head? ≠ some '.') :
    scanFraction (fractionText nanos ++ rest) = .ok (nanos, rest) := by
  unfold fractionText
  by_cases h0 : nanos = 0
  · rw [if_pos h0, List.nil_append]
    unfold scanFraction
    split
    · exact absurd rfl hpoint
    · rw [h0]
  rw [if_neg h0]
  by_cases h6 : nanos % 1000000 = 0
  · rw [if_pos h6, List.cons_append,
      scanFraction_padded (by decide) (by decide) (by omega) hrest]
    rw [show nanos / 1000000 * 10 ^ (9 - 3) = nanos by omega]
  rw [if_neg h6]
  by_cases h3 : nanos % 1000 = 0
  · rw [if_pos h3, List.cons_append,
      scanFraction_padded (by decide) (by decide) (by omega) hrest]
    rw [show nanos / 1000 * 10 ^ (9 - 6) = nanos by omega]
  · rw [if_neg h3, List.cons_append, scanFraction_padded (by decide) (by decide) hn hrest]
    rw [show nanos * 10 ^ (9 - 9) = nanos by omega]

theorem readTimestamp?_text_of_isRegular {t : Timestamp} (h : t.IsRegular) :
    readTimestamp? t.text = some t := by
  have hhour := t.clock.hour_lt
  have hminute := t.clock.minute_lt
  have hsecond := t.clock.writtenSecond_le
  have hresolve := resolve_parts h
  have hfraction : scanFraction (fractionText t.clock.fraction ++ ['Z']) =
      .ok (t.clock.fraction, ['Z']) :=
    scanFraction_fractionText t.clock.fraction_lt (noDigit_cons (by decide)) (by decide)
  have hzone : startsUtc ['Z'] = false := by decide
  unfold readTimestamp? Timestamp.text
  rw [String.toList_ofList]
  simp only [Clock.chars, List.append_assoc, List.cons_append]
  unfold readTimestampChars
  rw [scanDate_chars]
  simp only [bind, Except.bind, scanTimeMark, true_or, if_true]
  rw [scanPart_padded (by omega)]
  simp only
  rw [trimLeft_cons (by decide)]
  simp only [scanChar_cons]
  rw [scanPart_padded (by omega)]
  simp only
  rw [trimLeft_cons (by decide)]
  simp only [scanChar_cons]
  rw [scanPart_padded (by omega)]
  simp only [hfraction]
  rw [trimLeft_cons (by decide), hzone]
  simp only [Bool.false_eq_true, if_false, scanOffset]
  rw [if_neg (by decide), hresolve]
  rfl

/-- The form of answers is read as the regular time that is written like the one it was made of. -/
theorem readTimestamp?_text (t : Timestamp) : readTimestamp? t.text = some t.carried := by
  rw [← t.text_carried]
  exact readTimestamp?_text_of_isRegular t.isRegular_carried

/-! ## What is read is regular -/

/-- An offset is read in whole minutes. -/
theorem emod_of_scanOffset {separator : List Char → Read (Unit × List Char)} {cs rest : List Char}
    {offset : Int} (h : scanOffset separator cs = .ok (offset, rest)) : offset % 60 = 0 := by
  unfold scanOffset at h
  split at h
  · cases h
    rfl
  · cases h
    rfl
  · obtain ⟨⟨sign, _⟩, -, h⟩ := Outcome.bind_eq_ok h
    obtain ⟨⟨hours, _⟩, -, h⟩ := Outcome.bind_eq_ok h
    obtain ⟨⟨_, _⟩, -, h⟩ := Outcome.bind_eq_ok h
    obtain ⟨⟨minutes, _⟩, -, h⟩ := Outcome.bind_eq_ok h
    simp only at h
    split at h
    · cases h
      exact Int.emod_eq_zero_of_dvd (Dvd.dvd.mul_left (by omega) _)
    · cases h

theorem Clock.isRegular_of_ofHms? {hour minute second nano : Nat} {t : Clock}
    (h : Clock.ofHms? hour minute second nano = some t) : t.IsRegular := by
  unfold Clock.ofHms? Clock.of? at h
  unfold Clock.IsRegular Clock.isLeap
  split at h
  · split at h
    · split at h
      · cases h
        exact fun _ => by simp only; omega
      · cases h
    · split at h
      · cases h
        simp only [decide_eq_true_eq]
        omega
      · cases h
  · cases h

/-- At an offset of whole minutes a local time is regular, and so is the time that it stands for. -/
theorem isRegular_of_resolve {year : Int} {month day hour minute second nano : Nat} {offset : Int}
    (hoffset : offset % 60 = 0) {t : Timestamp}
    (h : resolve year month day hour minute second nano offset = .ok t) : t.IsRegular := by
  unfold resolve at h
  split at h
  next date clock _ hclock =>
    have hlocal := Clock.isRegular_of_ofHms? hclock
    split at h
    · split at h
      next t' hseconds =>
        cases h
        obtain ⟨_, -, h⟩ := Option.bind_eq_some_iff.mp hseconds
        obtain ⟨clock', hof, h⟩ := Option.bind_eq_some_iff.mp h
        cases h
        unfold Clock.of? at hof
        split at hof
        · cases hof
          intro hleap
          have := hlocal hleap
          simp only [secondsPerDay]
          omega
        · cases hof
      · cases h
    · cases h
  · cases h

/-- Whatever is read as the stored form of a time, the time is regular. -/
theorem isRegular_of_readStored {s : String} {t : Timestamp} (h : readStored s = .ok t) :
    t.IsRegular := by
  unfold readStored readStoredChars at h
  iterate 12 obtain ⟨⟨_, _⟩, -, h⟩ := Outcome.bind_eq_ok h
  obtain ⟨⟨offset, cs⟩, hoffset, h⟩ := Outcome.bind_eq_ok h
  simp only at h
  split at h
  · cases h
  · split at h
    · cases h
    · exact isRegular_of_resolve (emod_of_scanOffset hoffset) h

end MailSearch.Calendar
