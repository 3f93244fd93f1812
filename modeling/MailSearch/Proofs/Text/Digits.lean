import Mathlib
import MailSearch.Text.Digits

/-!
# Written numbers

* `digitsValue_decimal`, `digitsValue_padded`: the digits of a number read back as it, zeros on the
  left or none. `readBelow?_eq_some_iff`: what is read as a number below a bound.
* `spanDigits_append_of`: digits are cut off where they end.
* `WritesNumber`: the texts that write a number. In each length there is one
  (`WritesNumber.eq_padded`).
* `padded_lt_padded`: with one width, the order of the texts is the order of the numbers.
* `shorter_lt`, `longer_lt`: with different lengths, the shorter one counts as filled up with zeros
  on the right.
-/

namespace MailSearch.Text

/-- The text does not start with a digit. -/
def NoDigit (cs : List Char) : Prop := ∀ c ∈ cs.head?, c.isDigit = false

theorem noDigit_cons {c : Char} {cs : List Char} (h : c.isDigit = false) : NoDigit (c :: cs) := by
  simpa [NoDigit] using h

theorem tenTo_eq (n : Nat) : tenTo n = 10 ^ n := rfl

/-! ## Reading back -/

theorem digitsValue_cons (c : Char) (cs : List Char) :
    digitsValue (c :: cs) = 10 ^ cs.length * digitValue c + digitsValue cs := by
  have h : Nat.ofDigitChars 10 cs (digitValue c) =
      10 ^ cs.length * digitValue c + Nat.ofDigitChars 10 cs 0 :=
    Nat.ofDigitChars_eq_ofDigitChars_zero
  have h0 : digitsValue (c :: cs) = Nat.ofDigitChars 10 cs (digitValue c) := by
    simp [digitsValue, Nat.ofDigitChars, digitValue]
  rw [h0, h]
  rfl

/-- Digits with more digits after them. -/
theorem digitsValue_append (xs ys : List Char) :
    digitsValue (xs ++ ys) = digitsValue xs * 10 ^ ys.length + digitsValue ys := by
  induction xs with
  | nil =>
    show digitsValue ys = 0 * _ + _
    omega
  | cons x xs ih =>
    rw [List.cons_append, digitsValue_cons, digitsValue_cons, ih, List.length_append, Nat.pow_add]
    ring

theorem digitsValue_decimal (n : Nat) : digitsValue (decimal n) = n :=
  Nat.ofDigitChars_ten_toDigits

theorem digitsValue_padded (width n : Nat) : digitsValue (padded width n) = n := by
  have h := Nat.ofDigitChars_append (b := 10)
    (l := List.replicate (width - (decimal n).length) '0') (m := decimal n) 0
  rw [Nat.ofDigitChars_replicate_zero, Nat.mul_zero] at h
  exact h.trans (digitsValue_decimal n)

/-- A number below a bound is read from its digits, and from nothing else. -/
theorem readBelow?_eq_some_iff {bound n : Nat} {cs : List Char} : readBelow? bound cs = some n ↔
    cs ≠ [] ∧ (∀ c ∈ cs, c.isDigit = true) ∧ digitsValue cs = n ∧ n < bound := by
  unfold readBelow? readNat?
  simp only [Option.filter_eq_some_iff, Option.ite_none_right_eq_some, Option.some.injEq,
    List.all_eq_true, decide_eq_true_eq, and_assoc]

theorem isDigit_of_mem_decimal {n : Nat} {c : Char} (h : c ∈ decimal n) : c.isDigit = true :=
  Nat.isDigit_of_mem_toDigits (by decide) (by decide) h

theorem isDigit_of_mem_padded {width n : Nat} {c : Char} (h : c ∈ padded width n) :
    c.isDigit = true := by
  rcases List.mem_append.mp h with h | h
  · rw [(List.mem_replicate.mp h).2]
    rfl
  · exact isDigit_of_mem_decimal h

theorem decimal_ne_nil (n : Nat) : decimal n ≠ [] := Nat.toDigits_ne_nil

theorem le_length_padded (width n : Nat) : width ≤ (padded width n).length := by
  simp only [padded, List.length_append, List.length_replicate]
  omega

theorem length_padded {width n : Nat} (hw : 0 < width) (h : n < 10 ^ width) :
    (padded width n).length = width := by
  have hl : (decimal n).length ≤ width := (Nat.length_toDigits_le_iff (by decide) hw).mpr h
  simp only [padded, List.length_append, List.length_replicate]
  omega

/-- The first digit of a number is zero only for zero itself. -/
theorem eq_zero_of_head?_decimal {n : Nat} (h : (decimal n).head? = some '0') : n = 0 := by
  induction n using Nat.strongRecOn with
  | ind n ih =>
    unfold decimal at h
    by_cases hn : n < 10
    · rw [Nat.toDigits_of_lt_base hn] at h
      have hc : n.digitChar = '0' := by simpa using h
      have := Nat.toNat_digitChar_sub_48_of_lt_ten hn
      rw [hc] at this
      exact this.symm
    · rw [Nat.toDigits_of_base_le (by decide) (by omega)] at h
      obtain ⟨d, ds, hd⟩ := List.exists_cons_of_ne_nil (Nat.toDigits_ne_nil (n := n / 10) (b := 10))
      have := ih (n / 10) (by omega) (by rw [decimal, hd]; rw [hd] at h; exact h)
      omega

theorem spanDigits_append_of {digits rest : List Char} (hd : ∀ c ∈ digits, c.isDigit = true)
    (hr : NoDigit rest) : spanDigits (digits ++ rest) = (digits, rest) := by
  have hrest : rest.takeWhile Char.isDigit = [] ∧ rest.dropWhile Char.isDigit = rest := by
    cases rest with
    | nil => exact ⟨rfl, rfl⟩
    | cons c cs =>
      have hc : ¬ c.isDigit = true := by simp [hr c (by simp)]
      exact ⟨List.takeWhile_cons_of_neg hc, List.dropWhile_cons_of_neg hc⟩
  unfold spanDigits
  rw [List.takeWhile_append_of_pos hd, List.dropWhile_append_of_pos hd, hrest.1, hrest.2,
    List.append_nil]

theorem spanDigits_decimal (n : Nat) {rest : List Char} (h : NoDigit rest) :
    spanDigits (decimal n ++ rest) = (decimal n, rest) :=
  spanDigits_append_of (fun _ => isDigit_of_mem_decimal) h

/-- A number is written with at least one digit, and with no zero on the left but for zero. -/
theorem decimal_normal (n : Nat) :
    ¬ (decimal n = [] ∨ ((decimal n).head? = some '0' ∧ (decimal n).length ≠ 1)) := by
  rintro (h | ⟨h, hlen⟩)
  · exact decimal_ne_nil n h
  · rw [eq_zero_of_head?_decimal h] at hlen
    exact hlen rfl

/-! ## Order -/

theorem digitValue_lt_ten {c : Char} (h : c.isDigit = true) : digitValue c < 10 := by
  simp only [Char.isDigit, Bool.and_eq_true, decide_eq_true_eq, UInt32.le_iff_toNat_le] at h
  have := h.2
  simp only [digitValue, Char.toNat]
  simp at this
  simp
  omega

theorem digitsValue_lt {cs : List Char} (h : ∀ c ∈ cs, c.isDigit = true) :
    digitsValue cs < 10 ^ cs.length := by
  induction cs with
  | nil => decide
  | cons c cs ih =>
    have hc := digitValue_lt_ten (h c List.mem_cons_self)
    have hcs := ih fun d hd => h d (List.mem_cons_of_mem _ hd)
    have hle : 10 ^ cs.length * (digitValue c + 1) ≤ 10 ^ cs.length * 10 :=
      Nat.mul_le_mul_left _ hc
    rw [digitsValue_cons, List.length_cons, Nat.pow_succ]
    rw [Nat.mul_add] at hle
    omega

theorem lt_of_digitValue_lt {c d : Char} (h : digitValue c < digitValue d) : c < d := by
  rw [Char.lt_def, UInt32.lt_iff_toNat_lt]
  simp only [digitValue, Char.toNat] at h
  omega

theorem eq_of_digitValue_eq {c d : Char} (hc : c.isDigit = true) (hd : d.isDigit = true)
    (h : digitValue c = digitValue d) : c = d := by
  simp only [Char.isDigit, Bool.and_eq_true, decide_eq_true_eq, UInt32.le_iff_toNat_le] at hc hd
  apply Char.ext
  apply UInt32.toNat_inj.mp
  have := hc.1
  have := hd.1
  simp only [digitValue, Char.toNat] at h
  simp at *
  omega

/-- Of two texts of equally many digits, the one of the smaller number comes first. -/
theorem lt_of_digitsValue_lt {xs ys : List Char} (hx : ∀ c ∈ xs, c.isDigit = true)
    (hy : ∀ c ∈ ys, c.isDigit = true) (hlen : xs.length = ys.length)
    (h : digitsValue xs < digitsValue ys) : xs < ys := by
  induction xs generalizing ys with
  | nil =>
    rw [List.eq_nil_of_length_eq_zero hlen.symm] at h
    omega
  | cons x xs ih =>
    obtain ⟨y, ys, rfl⟩ := List.exists_cons_of_length_eq_add_one hlen.symm
    have hlen' : xs.length = ys.length := by simpa using hlen
    have hx' := fun c hc => hx c (List.mem_cons_of_mem _ hc)
    have hy' := fun c hc => hy c (List.mem_cons_of_mem _ hc)
    have hxc := hx x List.mem_cons_self
    have hyc := hy y List.mem_cons_self
    rw [digitsValue_cons, digitsValue_cons, hlen'] at h
    rw [List.cons_lt_cons_iff]
    rcases Nat.lt_trichotomy (digitValue x) (digitValue y) with hxy | hxy | hxy
    · exact .inl (lt_of_digitValue_lt hxy)
    · rw [hxy] at h
      exact .inr ⟨eq_of_digitValue_eq hxc hyc hxy, ih hx' hy' hlen' (by omega)⟩
    · have hle : 10 ^ ys.length * (digitValue y + 1) ≤ 10 ^ ys.length * digitValue x :=
        Nat.mul_le_mul_left _ hxy
      have := digitsValue_lt hy'
      rw [Nat.mul_add] at hle
      omega

/-- Equally many digits of one number are the same digits. -/
theorem eq_of_digitsValue_eq {xs ys : List Char} (hx : ∀ c ∈ xs, c.isDigit = true)
    (hy : ∀ c ∈ ys, c.isDigit = true) (hlen : xs.length = ys.length)
    (h : digitsValue xs = digitsValue ys) : xs = ys := by
  induction xs generalizing ys with
  | nil => exact (List.eq_nil_of_length_eq_zero hlen.symm).symm
  | cons x xs ih =>
    obtain ⟨y, ys, rfl⟩ := List.exists_cons_of_length_eq_add_one hlen.symm
    have hlen' : xs.length = ys.length := by simpa using hlen
    have hx' := fun c hc => hx c (List.mem_cons_of_mem _ hc)
    have hy' := fun c hc => hy c (List.mem_cons_of_mem _ hc)
    have hvx := digitsValue_lt hx'
    have hvy := digitsValue_lt hy'
    rw [digitsValue_cons, digitsValue_cons, hlen'] at h
    rw [hlen'] at hvx
    have hpos : 0 < 10 ^ ys.length := Nat.pow_pos (by decide)
    have hhead : digitValue x = digitValue y := by
      have hdiv := congrArg (· / 10 ^ ys.length) h
      simpa only [Nat.mul_add_div hpos, Nat.div_eq_of_lt hvx, Nat.div_eq_of_lt hvy,
        Nat.add_zero] using hdiv
    rw [hhead] at h
    rw [eq_of_digitValue_eq (hx x List.mem_cons_self) (hy y List.mem_cons_self) hhead,
      ih hx' hy' hlen' (by omega)]

/-! ## Texts of a number -/

/-- The text writes the number: digits in base ten, with any zeros in front. -/
def WritesNumber (cs : List Char) (n : Nat) : Prop :=
  cs ≠ [] ∧ (∀ c ∈ cs, c.isDigit = true) ∧ Nat.ofDigitChars 10 cs 0 = n

theorem writesNumber_padded {width : Nat} (hw : 0 < width) (n : Nat) :
    WritesNumber (padded width n) n := by
  have hlen := le_length_padded width n
  exact ⟨List.ne_nil_of_length_pos (by omega), fun _ => isDigit_of_mem_padded,
    digitsValue_padded width n⟩

/-- A text that writes a number is read as it, if it is below the bound. -/
theorem readBelow?_of_writes {bound n : Nat} {cs : List Char} (h : WritesNumber cs n) :
    readBelow? bound cs = if n < bound then some n else none := by
  obtain ⟨hne, hdigits, hvalue⟩ := h
  have hread : readNat? cs = some n :=
    (if_pos ⟨hne, List.all_eq_true.mpr hdigits⟩).trans (congrArg some hvalue)
  simp only [readBelow?, hread, Option.filter_some, decide_eq_true_eq]

theorem WritesNumber.lt {cs : List Char} {n : Nat} (h : WritesNumber cs n) :
    n < 10 ^ cs.length := by
  obtain ⟨-, hdigits, rfl⟩ := h
  exact digitsValue_lt hdigits

/-- In a given length, a number is written in one way. -/
theorem WritesNumber.eq_padded {cs : List Char} {width n : Nat} (h : WritesNumber cs n)
    (hwidth : cs.length = width) : cs = padded width n := by
  subst hwidth
  have hlen := length_padded (List.length_pos_iff.mpr h.1) h.lt
  obtain ⟨-, hdigits, hvalue⟩ := h
  refine eq_of_digitsValue_eq hdigits (fun _ => isDigit_of_mem_padded) hlen.symm ?_
  rw [digitsValue_padded]
  exact hvalue

/-! ## Texts of one width -/

/-- With one width, the order of the texts is the order of the numbers. -/
theorem padded_lt_padded {width m n : Nat} (hw : 0 < width) (h : m < n) (hn : n < 10 ^ width) :
    padded width m < padded width n := by
  apply lt_of_digitsValue_lt (fun _ => isDigit_of_mem_padded) (fun _ => isDigit_of_mem_padded)
  · rw [length_padded hw hn, length_padded hw (Nat.lt_trans h hn)]
  · rwa [digitsValue_padded, digitsValue_padded]

/-- A difference within equally long starts decides the order of two texts. -/
theorem append_lt_append {xs ys : List Char} (hlen : xs.length = ys.length) (h : xs < ys)
    (us vs : List Char) : xs ++ us < ys ++ vs := by
  induction xs generalizing ys with
  | nil =>
    rw [List.eq_nil_of_length_eq_zero hlen.symm] at h
    exact absurd h (List.lt_irrefl _)
  | cons x xs ih =>
    obtain ⟨y, ys, rfl⟩ := List.exists_cons_of_length_eq_add_one hlen.symm
    rw [List.cons_lt_cons_iff] at h
    rw [List.cons_append, List.cons_append, List.cons_lt_cons_iff]
    rcases h with h | ⟨rfl, h⟩
    · exact .inl h
    · exact .inr ⟨rfl, ih (by simpa using hlen) h⟩

/-- Equal starts leave the order of two texts to what follows. -/
theorem append_lt_append_left (xs : List Char) {us vs : List Char} (h : us < vs) :
    xs ++ us < xs ++ vs := by
  induction xs with
  | nil => exact h
  | cons x xs ih =>
    rw [List.cons_append, List.cons_append, List.cons_lt_cons_iff]
    exact .inr ⟨rfl, ih⟩

/-! ## Texts of different lengths -/

variable {xs ys : List Char}

theorem exists_longer (hlen : xs.length < ys.length) :
    ∃ zs w ws, ys = zs ++ w :: ws ∧ xs.length = zs.length ∧
      ys.length - xs.length = (w :: ws).length := by
  have hdrop : (ys.drop xs.length).length = ys.length - xs.length := List.length_drop
  obtain ⟨w, ws, hws⟩ := List.exists_cons_of_length_pos (l := ys.drop xs.length) (by omega)
  refine ⟨ys.take xs.length, w, ws, ?_, ?_, ?_⟩
  · rw [← hws, List.take_append_drop]
  · rw [List.length_take]
    omega
  · rw [← hws, hdrop]

/-- The shorter text comes first when its number, filled up with zeros, is no larger. A mark before
all digits ends it. -/
theorem shorter_lt (hx : ∀ c ∈ xs, c.isDigit = true) (hy : ∀ c ∈ ys, c.isDigit = true)
    (hlen : xs.length < ys.length)
    (h : digitsValue xs * 10 ^ (ys.length - xs.length) ≤ digitsValue ys) {mark : Char}
    (hmark : ∀ d : Char, d.isDigit = true → mark < d) (us vs : List Char) :
    xs ++ mark :: us < ys ++ vs := by
  obtain ⟨zs, w, ws, rfl, hlen', hrest⟩ := exists_longer hlen
  have hz := fun c hc => hy c (List.mem_append_left _ hc)
  have hw := fun c hc => hy c (List.mem_append_right _ hc)
  rw [digitsValue_append, hrest] at h
  have hlt := digitsValue_lt hw
  have hle : digitsValue xs ≤ digitsValue zs := by
    refine Nat.le_of_lt_succ (Nat.lt_of_mul_lt_mul_right (a := 10 ^ (w :: ws).length) ?_)
    rw [Nat.succ_mul]
    omega
  rw [List.append_assoc]
  rcases Nat.lt_or_eq_of_le hle with hlt | heq
  · exact append_lt_append hlen' (lt_of_digitsValue_lt hx hz hlen' hlt) _ _
  · rw [eq_of_digitsValue_eq hx hz hlen' heq, List.cons_append]
    refine append_lt_append_left _ (List.cons_lt_cons_iff.mpr (.inl ?_))
    exact hmark w (hw w List.mem_cons_self)

/-- The longer text comes first when its number is below that of the other one filled up. -/
theorem longer_lt (hx : ∀ c ∈ xs, c.isDigit = true) (hy : ∀ c ∈ ys, c.isDigit = true)
    (hlen : xs.length < ys.length)
    (h : digitsValue ys < digitsValue xs * 10 ^ (ys.length - xs.length)) (us vs : List Char) :
    ys ++ vs < xs ++ us := by
  obtain ⟨zs, w, ws, rfl, hlen', hrest⟩ := exists_longer hlen
  have hz := fun c hc => hy c (List.mem_append_left _ hc)
  rw [digitsValue_append, hrest] at h
  have hlt : digitsValue zs < digitsValue xs :=
    Nat.lt_of_mul_lt_mul_right (Nat.lt_of_le_of_lt (Nat.le_add_right _ _) h)
  rw [List.append_assoc]
  exact append_lt_append hlen'.symm (lt_of_digitsValue_lt hz hx hlen'.symm hlt) _ _

end MailSearch.Text
