import Mathlib.Data.String.Basic

/-!
# The order of bytes

UTF-8 keeps the order of texts: their bytes are in order exactly if their characters are
(`utf8_lt_iff`). So a store that compares bytes and one that compares characters put texts in one
order.

A text of ASCII characters has a byte for each, and no other text has ASCII bytes alone
(`utf8_of_ascii`, `ascii_of_utf8`).
-/

namespace MailSearch.Text

/-- The bytes of a text in UTF-8. -/
def utf8 (s : String) : List UInt8 := s.toUTF8.data.toList

theorem utf8_eq (s : String) : utf8 s = s.toList.flatMap String.utf8EncodeChar := by
  rw [utf8, String.toUTF8_eq_toByteArray, ← String.utf8Encode_toList]
  exact List.toList_data_toByteArray

/-! ## One character -/

/-- A smaller number is smaller before its last digit to base 64, or in it. -/
theorem digit_lt {m n : Nat} (h : m < n) :
    m / 64 < n / 64 ∨ (m / 64 = n / 64 ∧ m % 64 < n % 64) := by
  omega

/-- The first of the last three digits that differ decides, if nothing before them does. -/
theorem digits_lt {m n : Nat} (h : m < n) :
    m / 262144 < n / 262144 ∨ (m / 262144 = n / 262144 ∧
      (m / 4096 % 64 < n / 4096 % 64 ∨ (m / 4096 % 64 = n / 4096 % 64 ∧
        (m / 64 % 64 < n / 64 % 64 ∨ (m / 64 % 64 = n / 64 % 64 ∧ m % 64 < n % 64))))) := by
  have hdiv : ∀ k : Nat, k / 4096 = k / 64 / 64 ∧ k / 262144 = k / 64 / 64 / 64 := by omega
  rw [(hdiv m).1, (hdiv m).2, (hdiv n).1, (hdiv n).2]
  rcases digit_lt h with h | ⟨h1, h⟩
  · rcases digit_lt h with h | ⟨h1, h⟩
    · rcases digit_lt h with h | ⟨h1, h⟩
      · exact .inl h
      · exact .inr ⟨h1, .inl h⟩
    · rw [h1]
      exact .inr ⟨rfl, .inr ⟨rfl, .inl h⟩⟩
  · rw [h1]
    exact .inr ⟨rfl, .inr ⟨rfl, .inr ⟨rfl, h⟩⟩⟩

theorem codePoint_lt (c : Char) : c.val.toNat < 0x110000 := by
  rcases c.valid with h | ⟨-, h⟩
  · exact Nat.lt_trans h (by decide)
  · exact h

/-- Where the bytes of two characters first differ, the smaller character has the smaller one,
whatever follows. -/
theorem utf8EncodeChar_append_lt {c d : Char} (h : c < d) (us vs : List UInt8) :
    String.utf8EncodeChar c ++ us < String.utf8EncodeChar d ++ vs := by
  have hlt : c.val.toNat < d.val.toNat := h
  have hbound := codePoint_lt d
  have hdigits := digits_lt hlt
  unfold String.utf8EncodeChar
  generalize c.val.toNat = m at hlt hdigits
  generalize d.val.toNat = n at hlt hbound hdigits
  simp only
  -- one to four bytes each: with equally many the digits decide, else the first byte does
  split_ifs
  all_goals
    simp only [List.cons_append, List.cons_lt_cons_iff, UInt8.lt_iff_toNat_lt,
      ← UInt8.toNat_inj, UInt8.toNat_ofNat', Nat.reducePow]
    simp (disch := omega) only [Nat.mod_eq_of_lt]
    omega

/-! ## Texts -/

theorem flatMap_utf8EncodeChar_lt {xs ys : List Char} (h : xs < ys) :
    xs.flatMap String.utf8EncodeChar < ys.flatMap String.utf8EncodeChar := by
  induction xs generalizing ys with
  | nil =>
    cases ys with
    | nil => exact absurd h (List.lt_irrefl _)
    | cons y ys =>
      obtain ⟨byte, rest, hbytes⟩ :=
        List.exists_cons_of_ne_nil (String.utf8EncodeChar_ne_nil (c := y))
      rw [List.flatMap_cons, hbytes]
      exact List.nil_lt_cons _ _
  | cons x xs ih =>
    cases ys with
    | nil => cases h
    | cons y ys =>
      rw [List.flatMap_cons, List.flatMap_cons]
      rcases List.cons_lt_cons_iff.mp h with hxy | ⟨rfl, hrest⟩
      · exact utf8EncodeChar_append_lt hxy _ _
      · exact List.append_left_lt (ih hrest)

/-- The bytes of texts are in order exactly if the texts are. -/
theorem utf8_lt_iff {a b : String} : utf8 a < utf8 b ↔ a < b := by
  rw [utf8_eq, utf8_eq, String.lt_iff_toList_lt]
  refine ⟨fun h => ?_, flatMap_utf8EncodeChar_lt⟩
  rcases lt_trichotomy a.toList b.toList with hab | hab | hba
  · exact hab
  · rw [hab] at h
    exact absurd h (List.lt_irrefl _)
  · exact absurd (flatMap_utf8EncodeChar_lt hba) (List.lt_asymm h)

/-! ## ASCII -/

theorem utf8EncodeChar_of_ascii {c : Char} (h : c.toNat < 128) :
    (String.utf8EncodeChar c).map Char.ofUInt8 = [c] := by
  have hval : c.val.toNat ≤ 127 := Nat.le_of_lt_succ h
  have hchar : Char.ofUInt8 (UInt8.ofNat c.val.toNat) = c := by
    rw [← Char.toNat_inj]
    show (UInt8.ofNat c.val.toNat).toNat = c.val.toNat
    rw [UInt8.toNat_ofNat']
    omega
  simp only [String.utf8EncodeChar, if_pos hval, List.map_singleton, hchar]

/-- A character beyond ASCII starts with a byte beyond ASCII. -/
theorem exists_mem_utf8EncodeChar {c : Char} (h : 128 ≤ c.toNat) :
    ∃ byte ∈ String.utf8EncodeChar c, 128 ≤ byte.toNat := by
  have hbound := codePoint_lt c
  have hval : ¬ c.val.toNat ≤ 127 := Nat.not_le_of_lt h
  unfold String.utf8EncodeChar
  simp only [if_neg hval]
  split_ifs
  all_goals
    refine ⟨_, List.mem_cons_self, ?_⟩
    rw [UInt8.toNat_ofNat']
    omega

/-- The bytes of an ASCII text are its characters. -/
theorem utf8_of_ascii {s : String} (h : ∀ c ∈ s.toList, c.toNat < 128) :
    (utf8 s).map Char.ofUInt8 = s.toList := by
  rw [utf8_eq, List.map_flatMap]
  calc s.toList.flatMap (fun c => (String.utf8EncodeChar c).map Char.ofUInt8)
      = s.toList.flatMap (fun c => [c]) :=
        List.flatMap_congr fun c hc => utf8EncodeChar_of_ascii (h c hc)
    _ = s.toList := List.flatMap_singleton' _

/-- Only an ASCII text has ASCII bytes alone. -/
theorem ascii_of_utf8 {s : String} (h : ∀ byte ∈ utf8 s, byte.toNat < 128) :
    ∀ c ∈ s.toList, c.toNat < 128 := by
  intro c hc
  by_contra hlarge
  obtain ⟨byte, hmem, hbyte⟩ := exists_mem_utf8EncodeChar (Nat.not_lt.mp hlarge)
  rw [utf8_eq] at h
  have := h byte (List.mem_flatMap.mpr ⟨c, hc, hmem⟩)
  omega

end MailSearch.Text
