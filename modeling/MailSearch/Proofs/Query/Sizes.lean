import MailSearch.Proofs.Text.Digits
import MailSearch.Query.Value

/-!
# Sizes are exact or refused

A size is written as digits, perhaps with a letter after them that stands for a power of 1024 bytes
(`WritesSize`). It is read as the bytes that it writes if 64 bits hold them, and refused otherwise;
no other text is read (`sizes_exact_or_refused`).

* `WritesUnit`: the texts of units. `unitBytes?_eq_some_iff`: what each is read as.
* `readSize?_append`: digits with a unit are decided by the product of unbounded numbers, so no
  product is wrapped.
* `writesSize_of_readSize?`: what is read is what the text writes.
-/

namespace MailSearch

open Text

/-! ## Units -/

/-- What ASCII upper case leads to a capital letter: the letter itself and its small form, which
lies 32 places further on. -/
theorem toUpper_eq_iff {c capital small : Char} (hlo : 65 ≤ capital.toNat)
    (hhi : capital.toNat ≤ 90) (hsmall : small.toNat = capital.toNat + 32) :
    c.toUpper = capital ↔ c = capital ∨ c = small := by
  rw [← Char.toNat_inj, ← Char.toNat_inj, ← Char.toNat_inj, hsmall]
  by_cases hlower : 'a'.val ≤ c.val ∧ c.val ≤ 'z'.val
  · have hfrom : 97 ≤ c.toNat := hlower.1
    have hto : c.toNat ≤ 122 := hlower.2
    -- the distance between the cases is added modulo 2³²
    have hupper : c.toUpper.toNat = (c.toNat + 4294967264) % 4294967296 := by
      unfold Char.toUpper
      rw [dif_pos hlower]
      exact UInt32.toNat_add _ _
    omega
  · have hother : ¬ (97 ≤ c.toNat ∧ c.toNat ≤ 122) := hlower
    have hupper : c.toUpper = c := by
      unfold Char.toUpper
      rw [dif_neg hlower]
    rw [hupper]
    omega

/-- The text writes a unit of so many bytes: nothing, or one letter in either case. -/
inductive WritesUnit : List Char → Nat → Prop where
  | byte : WritesUnit [] 1
  | kilo {c : Char} (h : c = 'K' ∨ c = 'k') : WritesUnit [c] 1024
  | mega {c : Char} (h : c = 'M' ∨ c = 'm') : WritesUnit [c] (1024 ^ 2)
  | giga {c : Char} (h : c = 'G' ∨ c = 'g') : WritesUnit [c] (1024 ^ 3)

section Units

variable {letters : List Char} {unit : Nat}

/-- A unit is read from the texts that write it, and from nothing else. -/
theorem unitBytes?_eq_some_iff : unitBytes? letters = some unit ↔ WritesUnit letters unit := by
  have hkilo {c : Char} : c.toUpper = 'K' ↔ c = 'K' ∨ c = 'k' :=
    toUpper_eq_iff (by decide) (by decide) rfl
  have hmega {c : Char} : c.toUpper = 'M' ↔ c = 'M' ∨ c = 'm' :=
    toUpper_eq_iff (by decide) (by decide) rfl
  have hgiga {c : Char} : c.toUpper = 'G' ↔ c = 'G' ∨ c = 'g' :=
    toUpper_eq_iff (by decide) (by decide) rfl
  constructor
  · intro h
    unfold unitBytes? at h
    split at h
    · cases h
      exact .byte
    · split_ifs at h with hK hM hG
      · cases h
        exact .kilo (hkilo.mp hK)
      · cases h
        exact .mega (hmega.mp hM)
      · cases h
        exact .giga (hgiga.mp hG)
    · cases h
  · intro h
    cases h with
    | byte => rfl
    | kilo h => simp [unitBytes?, hkilo.mpr h]
    | mega h => simp [unitBytes?, hmega.mpr h]
    | giga h => simp [unitBytes?, hgiga.mpr h]

theorem WritesUnit.noDigit (h : WritesUnit letters unit) : NoDigit letters := by
  cases h with
  | byte => exact nofun
  | kilo h => rcases h with rfl | rfl <;> exact noDigit_cons rfl
  | mega h => rcases h with rfl | rfl <;> exact noDigit_cons rfl
  | giga h => rcases h with rfl | rfl <;> exact noDigit_cons rfl

theorem WritesUnit.pos (h : WritesUnit letters unit) : 0 < unit := by
  cases h <;> decide

end Units

/-! ## Sizes -/

/-- The text writes so many bytes: a number, and a unit that it counts. -/
def WritesSize (cs : List Char) (size : Nat) : Prop :=
  ∃ digits letters amount unit, cs = digits ++ letters ∧ WritesNumber digits amount ∧
    WritesUnit letters unit ∧ size = amount * unit

variable {cs digits letters : List Char} {amount unit : Nat} {n : UInt64}

/-- A number and a unit are read as their product, if 64 bits hold it. -/
theorem readSize?_append (hdigits : WritesNumber digits amount)
    (hletters : WritesUnit letters unit) :
    readSize? (digits ++ letters) =
      if amount * unit < word64 then some (amount * unit).toUInt64 else none := by
  have hspan : spanDigits (digits ++ letters) = (digits, letters) :=
    spanDigits_append_of hdigits.2.1 hletters.noDigit
  simp only [readSize?, hspan, readBelow?_of_writes hdigits, unitBytes?_eq_some_iff.mpr hletters]
  by_cases hamount : amount < word64
  · rw [if_pos hamount]
    rfl
  · -- a number too large for 64 bits is no smaller when it counts a unit
    have hproduct : ¬ amount * unit < word64 := by
      have := Nat.le_mul_of_pos_right amount hletters.pos
      omega
    rw [if_neg hamount, if_neg hproduct]
    rfl

/-- A text is read as the bytes that it writes. -/
theorem writesSize_of_readSize? (h : readSize? cs = some n) : WritesSize cs n.toNat := by
  obtain ⟨amount, hamount, h⟩ := Option.bind_eq_some_iff.mp h
  obtain ⟨unit, hunit, h⟩ := Option.bind_eq_some_iff.mp h
  split_ifs at h with hlt
  cases h
  obtain ⟨hne, hdigits, hvalue, -⟩ := readBelow?_eq_some_iff.mp hamount
  exact ⟨_, _, amount, unit, (spanDigits_append cs).symm, ⟨hne, hdigits, hvalue⟩,
    unitBytes?_eq_some_iff.mp hunit, UInt64.toNat_ofNat_of_lt' hlt⟩

theorem readSize?_eq_some_iff : readSize? cs = some n ↔ WritesSize cs n.toNat := by
  refine ⟨writesSize_of_readSize?, ?_⟩
  rintro ⟨digits, letters, amount, unit, rfl, hdigits, hletters, hsize⟩
  have hlt : n.toNat < word64 := n.toNat_lt
  rw [readSize?_append hdigits hletters, ← hsize, if_pos hlt]
  exact congrArg some UInt64.ofNat_toNat

/-- A text is refused exactly if it writes no size that 64 bits hold. -/
theorem readSize?_eq_none_iff : readSize? cs = none ↔ ¬ ∃ size < 2 ^ 64, WritesSize cs size := by
  constructor
  · rintro hnone ⟨size, hlt, hwrites⟩
    rw [← UInt64.toNat_ofNat_of_lt' hlt, ← readSize?_eq_some_iff, hnone] at hwrites
    cases hwrites
  · intro hnot
    rw [Option.eq_none_iff_forall_ne_some]
    intro n hread
    exact hnot ⟨n.toNat, n.toNat_lt, writesSize_of_readSize? hread⟩

/-- **Sizes are exact or refused.** A text is read as a number of bytes exactly if it is digits and
perhaps a unit, and 64 bits hold what the digits write and its product with the unit; the number is
that product. Any other text is refused, one whose bytes are too many among them. -/
theorem sizes_exact_or_refused (cs : List Char) :
    (∀ n : UInt64, readSize? cs = some n ↔
      ∃ digits letters amount unit, cs = digits ++ letters ∧
        WritesNumber digits amount ∧ amount < 2 ^ 64 ∧
        WritesUnit letters unit ∧ amount * unit < 2 ^ 64 ∧ n.toNat = amount * unit) ∧
    (readSize? cs = none ↔ ¬ ∃ size < 2 ^ 64, WritesSize cs size) := by
  refine ⟨fun n => ?_, readSize?_eq_none_iff⟩
  rw [readSize?_eq_some_iff]
  constructor
  · rintro ⟨digits, letters, amount, unit, hcs, hdigits, hletters, hsize⟩
    have hproduct : amount * unit < 2 ^ 64 := hsize ▸ n.toNat_lt
    have hamount : amount < 2 ^ 64 :=
      Nat.lt_of_le_of_lt (Nat.le_mul_of_pos_right amount hletters.pos) hproduct
    exact ⟨digits, letters, amount, unit, hcs, hdigits, hamount, hletters, hproduct, hsize⟩
  · rintro ⟨digits, letters, amount, unit, hcs, hdigits, -, hletters, -, hsize⟩
    exact ⟨digits, letters, amount, unit, hcs, hdigits, hletters, hsize⟩

/-- The largest count of the largest unit, with zeros in front, and the next one. -/
example : readSize? "0017179869183g".toList = some 18446744072635809792 ∧
    readSize? "17179869184G".toList = none := by decide

end MailSearch
