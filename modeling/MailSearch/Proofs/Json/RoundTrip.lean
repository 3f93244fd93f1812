import MailSearch.Json.Printer
import MailSearch.Json.Reader
import MailSearch.Proofs.Text.Digits

/-!
# Printed documents read back

* `Json.Exact v`: no part of the document is a number that is kept as it was written.
* `Json.readValue_chars`: an exact document is read off the start of every text that begins with
  its characters, with fuel for each of them, whatever is wanted of it.
* `Json.readAs?_compact`: so an exact document is what its text holds, and
  `Json.compact_inj`: two exact documents with one text are equal.
-/

namespace MailSearch.Json

open MailSearch.Text

/-- No part of the document is a number that is kept as it was written. -/
inductive Exact : Json → Prop
  | null : Exact null
  | bool (b : Bool) : Exact (bool b)
  | integer (n : Int) : Exact (integer n)
  | text (s : String) : Exact (text s)
  | list {items : List Json} (h : ∀ v ∈ items, Exact v) : Exact (list items)
  | object {fields : List (String × Json)} (h : ∀ field ∈ fields, Exact field.2) :
    Exact (object fields)

theorem exact_ofText? (s : Option String) : Exact (ofText? s) := by
  cases s
  · exact .null
  · exact .text _

theorem exact_ofBool? (b : Option Bool) : Exact (ofBool? b) := by
  cases b
  · exact .null
  · exact .bool _

theorem exact_ofTexts (values : List String) : Exact (ofTexts values) := by
  refine .list fun v hv => ?_
  obtain ⟨s, -, rfl⟩ := List.mem_map.mp hv
  exact .text s

/-- The texts of a list of texts. -/
theorem asTexts?_ofTexts (values : List String) : (ofTexts values).asTexts? = some values := by
  show (values.map text).mapM asText? = some values
  induction values with
  | nil => rfl
  | cons s values ih =>
    rw [List.map_cons, List.mapM_cons, ih]
    rfl

/-! ## Strings -/

theorem hexValue?_hexDigit : ∀ n < 16, hexValue? (hexDigit n) = some n := by decide

/-- The code of a control character is no half of a pair, and stands for it. -/
theorem Shape.unitChar?_control (shape : Shape) {n : Nat} (hn : n < 0x20) :
    shape.unitChar? n = some (Char.ofNat n) := by
  have h : Json.unitChar? n = some (Char.ofNat n) := by rw [Json.unitChar?, if_neg (by omega)]
  cases shape <;> simp only [Shape.unitChar?, looseUnitChar?, h, Option.getD_some]

section Strings

variable (shape : Shape)

/-- A control character is written as its code. -/
theorem readString_control {n : Nat} (hn : n < 0x20) (rest : List Char) :
    readString shape.unitChar?
        ('\\' :: 'u' :: '0' :: '0' :: hexDigit (n / 16) :: hexDigit (n % 16) :: rest) =
      (readString shape.unitChar? rest).map fun p => (Char.ofNat n :: p.1, p.2) := by
  have hword : hexWord? '0' '0' (hexDigit (n / 16)) (hexDigit (n % 16)) = some n := by
    have h0 : hexValue? '0' = some 0 := by decide
    have h1 := hexValue?_hexDigit (n / 16) (by omega)
    have h2 := hexValue?_hexDigit (n % 16) (by omega)
    simp only [hexWord?, h0, h1, h2, bind, Option.bind, pure]
    congr 1
    omega
  have hunit := shape.unitChar?_control hn
  rw [readString.eq_def]
  split <;> rename_i heq
  · cases heq
  · cases heq
  · simp only [List.cons.injEq, true_and] at heq
    obtain ⟨rfl, rfl, rfl, rfl, rfl⟩ := heq
    have hpair : ∀ low, surrogatePair? n low = none := fun low => by
      rw [surrogatePair?, if_neg (by omega)]
    rw [hword]
    cases hexWord? _ _ _ _ <;> simp [hpair, hunit]
  · simp only [List.cons.injEq, true_and] at heq
    obtain ⟨rfl, rfl, rfl, rfl, rfl⟩ := heq
    simp [hword, hunit]
  · rename_i h
    simp only [List.cons.injEq, true_and] at heq
    exact absurd heq.2.symm (h _ _ _ _ _ heq.1.symm)
  · rename_i h
    simp only [List.cons.injEq] at heq
    exact absurd heq.2.symm (h _ _ heq.1.symm)

/-- A letter after a backslash stands for one character. -/
theorem readString_letter {letter c : Char} (h : escaped? letter = some c) (rest : List Char) :
    readString shape.unitChar? ('\\' :: letter :: rest) =
      (readString shape.unitChar? rest).map fun p => (c :: p.1, p.2) := by
  have hu : letter ≠ 'u' := by
    rintro rfl
    simp [escaped?] at h
  rw [readString]
  · simp [h]
  · intro a b c d e f g i rest' h'
    exact absurd h' hu
  · intro a b c d rest' h'
    exact absurd h' hu

/-- A character is written as a letter after a backslash, as its code, or as itself. -/
theorem escapeChar_cases (c : Char) :
    (∃ letter, escaped? letter = some c ∧ escapeChar c = ['\\', letter]) ∨
    (c.toNat < 0x20 ∧ escapeChar c =
      ['\\', 'u', '0', '0', hexDigit (c.toNat / 16), hexDigit (c.toNat % 16)]) ∨
    (c ≠ '"' ∧ c ≠ '\\' ∧ ¬ c.toNat < 0x20 ∧ escapeChar c = [c]) := by
  by_cases hletter : c ∈ ['"', '\\', '\n', '\r', '\t', '\x08', '\x0c']
  · left
    simp only [List.mem_cons, List.not_mem_nil, or_false] at hletter
    rcases hletter with rfl | rfl | rfl | rfl | rfl | rfl | rfl <;> exact ⟨_, by decide, rfl⟩
  · right
    simp only [List.mem_cons, List.not_mem_nil, or_false, not_or] at hletter
    obtain ⟨h1, h2, h3, h4, h5, h6, h7⟩ := hletter
    unfold escapeChar
    rw [if_neg h1, if_neg h2, if_neg h3, if_neg h4, if_neg h5, if_neg h6, if_neg h7]
    by_cases hcode : c.toNat < 0x20
    · exact .inl ⟨hcode, if_pos hcode⟩
    · exact .inr ⟨h1, h2, hcode, if_neg hcode⟩

theorem readString_plain {c : Char} (hquote : c ≠ '"') (hslash : c ≠ '\\')
    (hcode : ¬ c.toNat < 0x20) (rest : List Char) :
    readString shape.unitChar? (c :: rest) =
      (readString shape.unitChar? rest).map fun p => (c :: p.1, p.2) := by
  rw [readString.eq_def]
  split <;> rename_i heq
  · cases heq
  · exact absurd (List.cons.inj heq).1 hquote
  · exact absurd (List.cons.inj heq).1 hslash
  · exact absurd (List.cons.inj heq).1 hslash
  · exact absurd (List.cons.inj heq).1 hslash
  · obtain ⟨rfl, rfl⟩ := List.cons.inj heq
    rw [if_neg (not_or.mpr ⟨hcode, hslash⟩)]

theorem readString_escapeChar (c : Char) (rest : List Char) :
    readString shape.unitChar? (escapeChar c ++ rest) =
      (readString shape.unitChar? rest).map fun p => (c :: p.1, p.2) := by
  rcases escapeChar_cases c with ⟨letter, hletter, h⟩ | ⟨hcode, h⟩ | ⟨hquote, hslash, hcode, h⟩
  · rw [h]
    exact readString_letter shape hletter rest
  · rw [h]
    have := readString_control shape hcode rest
    rwa [Char.ofNat_toNat] at this
  · rw [h]
    exact readString_plain shape hquote hslash hcode rest

/-- The characters of a string are read back up to its closing quote. -/
theorem readString_escaped (cs rest : List Char) :
    readString shape.unitChar? (cs.flatMap escapeChar ++ '"' :: rest) = some (cs, rest) := by
  induction cs with
  | nil => simp [readString]
  | cons c cs ih =>
    rw [List.flatMap_cons, List.append_assoc, readString_escapeChar, ih]
    rfl

theorem readString_quoted (s : String) (rest : List Char) :
    readString shape.unitChar? (s.toList.flatMap escapeChar ++ ['"'] ++ rest) =
      some (s.toList, rest) := by
  rw [List.append_assoc]
  exact readString_escaped shape _ _

end Strings

/-! ## Numbers -/

/-- The text does not go on a number before it. -/
def EndsNumber (cs : List Char) : Prop :=
  ∀ c ∈ cs.head?, c.isDigit = false ∧ c ≠ '.' ∧ c ≠ 'e' ∧ c ≠ 'E'

theorem endsNumber_cons {c : Char} {cs : List Char}
    (h : c.isDigit = false ∧ c ≠ '.' ∧ c ≠ 'e' ∧ c ≠ 'E') : EndsNumber (c :: cs) := by
  simpa [EndsNumber] using h

theorem endsNumber_nil : EndsNumber [] := by simp [EndsNumber]

theorem EndsNumber.noDigit {cs : List Char} (h : EndsNumber cs) : NoDigit cs :=
  fun c hc => (h c hc).1

theorem EndsNumber.readFraction {cs : List Char} (h : EndsNumber cs) :
    readFraction cs = some ([], cs) := by
  unfold Json.readFraction
  split
  · exact absurd rfl (h _ rfl).2.1
  · rfl

theorem EndsNumber.readExponent {cs : List Char} (h : EndsNumber cs) :
    readExponent cs = some ([], cs) := by
  unfold Json.readExponent
  split
  · rw [if_neg]
    exact not_or.mpr (h _ rfl).2.2
  · rfl

/-- The characters of an integer start with a minus or a digit. -/
theorem exists_decimalInt (n : Int) :
    ∃ c cs, decimalInt n = c :: cs ∧ (c = '-' ∨ c.isDigit = true) := by
  obtain ⟨d, ds, hd⟩ := List.exists_cons_of_ne_nil (decimal_ne_nil n.natAbs)
  unfold decimalInt
  split
  · exact ⟨'-', Text.decimal n.natAbs, rfl, .inl rfl⟩
  · exact ⟨d, ds, hd, .inr (isDigit_of_mem_decimal (n := n.natAbs) (by rw [hd]; simp))⟩

theorem readNumber_decimalInt (n : Int) {rest : List Char} (h : EndsNumber rest) :
    readNumber (decimalInt n ++ rest) = some (integer n, rest) := by
  have hspan := spanDigits_decimal n.natAbs h.noDigit
  have hvalid := decimal_normal n.natAbs
  unfold decimalInt
  split
  · simp only [readNumber, List.cons_append, hspan, if_neg hvalid, h.readFraction, h.readExponent,
      digitsValue_decimal, bind, Option.bind]
    rw [if_pos (by simp; omega), if_pos trivial]
    congr 3
    omega
  · obtain ⟨d, ds, hd⟩ := List.exists_cons_of_ne_nil (decimal_ne_nil n.natAbs)
    have hdigit : d.isDigit = true := isDigit_of_mem_decimal (n := n.natAbs) (by rw [hd]; simp)
    have hminus : d ≠ '-' := by
      rintro rfl
      cases hdigit
    unfold readNumber
    split
    rename_i negative unsigned hx
    split at hx <;> cases hx
    · rename_i heq
      rw [hd, List.cons_append] at heq
      exact absurd (List.cons.inj heq).1 hminus
    · simp only [hspan, if_neg hvalid, h.readFraction, h.readExponent, digitsValue_decimal, bind,
        Option.bind]
      rw [if_pos (by simp), if_neg (by simp)]
      congr 3
      omega

/-! ## Values -/

/-- The characters of a document do not start with a blank or a closing bracket. -/
theorem Exact.exists_chars {v : Json} (h : Exact v) :
    ∃ c cs, v.chars = c :: cs ∧ isGap c = false ∧ c ≠ ']' := by
  cases h with
  | null => exact ⟨_, _, by rw [chars], by decide, by decide⟩
  | bool b => cases b <;> exact ⟨_, _, by rw [chars], by decide, by decide⟩
  | integer n =>
    obtain ⟨c, cs, h, hc⟩ := exists_decimalInt n
    refine ⟨c, cs, by rw [chars, h], ?_, ?_⟩
    · rcases hc with rfl | hc
      · decide
      · rw [← Bool.not_eq_true]
        intro hgap
        simp only [isGap, Bool.or_eq_true, decide_eq_true_eq] at hgap
        rcases hgap with ((rfl | rfl) | rfl) | rfl <;> cases hc
    · rintro rfl
      rcases hc with hc | hc <;> cases hc
  | text s => exact ⟨'"', _, by rw [chars, quoted], by decide, by decide⟩
  | @list items h => cases items <;> exact ⟨'[', _, by rw [chars], by decide, by decide⟩
  | @object fields h =>
    cases fields with
    | nil => exact ⟨'\x7b', _, by rw [chars], by decide, by decide⟩
    | cons field fields => exact ⟨'\x7b', _, by rw [chars], by decide, by decide⟩

theorem skipGap_cons {c : Char} {cs : List Char} (h : isGap c = false) :
    skipGap (c :: cs) = c :: cs :=
  List.dropWhile_cons_of_neg (by simp [h])

theorem Exact.skipGap {v : Json} (h : Exact v) (rest : List Char) :
    skipGap (v.chars ++ rest) = v.chars ++ rest := by
  obtain ⟨c, cs, hc, hgap, -⟩ := h.exists_chars
  rw [hc, List.cons_append, skipGap_cons hgap]

/-- Whether the characters of a document are read as it, before any text that does not go on a
number, with fuel for each of them. -/
def ReadsBack (v : Json) : Prop :=
  ∀ fuel shape rest, v.chars.length ≤ fuel → EndsNumber rest →
    readValue fuel shape (v.chars ++ rest) = some (v, rest)

/-- The items of a list are read up to its closing bracket. -/
theorem readItems_chars {v : Json} {items : List Json} (hexact : ∀ w ∈ v :: items, Exact w)
    (hread : ∀ w ∈ v :: items, ReadsBack w) (fuel : Nat) (shape : Shape)
    (rest : List Char) (hfuel : (v.chars ++ charsOfItems items).length ≤ fuel) :
    readItems fuel shape (v.chars ++ charsOfItems items ++ rest) = some (v :: items, rest) := by
  induction items generalizing v fuel shape with
  | nil =>
    simp only [charsOfItems, List.length_append, List.length_singleton] at hfuel
    obtain ⟨fuel, rfl⟩ : ∃ k, fuel = k + 1 := ⟨fuel - 1, by omega⟩
    have hv := hread v List.mem_cons_self fuel shape.head (']' :: rest) (by omega)
      (endsNumber_cons (by decide))
    rw [readItems, charsOfItems, List.append_assoc, List.singleton_append,
      (hexact v List.mem_cons_self).skipGap, hv]
    rfl
  | cons w items ih =>
    simp only [charsOfItems, List.length_append, List.length_cons] at hfuel
    obtain ⟨fuel, rfl⟩ : ∃ k, fuel = k + 1 := ⟨fuel - 1, by omega⟩
    have hv := hread v List.mem_cons_self fuel shape.head
      (',' :: (w.chars ++ charsOfItems items ++ rest)) (by omega) (endsNumber_cons (by decide))
    have hw := ih (fun x hx => hexact x (List.mem_cons_of_mem _ hx))
      (fun x hx => hread x (List.mem_cons_of_mem _ hx)) fuel shape.tail
      (by simp only [List.length_append]; omega)
    rw [readItems, charsOfItems, List.append_assoc, List.cons_append,
      (hexact v List.mem_cons_self).skipGap, hv]
    simp only [bind, Option.bind]
    rw [skipGap_cons (by decide)]
    simp only [hw, Option.map_some]

/-- The fields of an object are read up to its closing brace. -/
theorem readFields_chars {field : String × Json} {fields : List (String × Json)}
    (hexact : ∀ w ∈ field :: fields, Exact w.2) (hread : ∀ w ∈ field :: fields, ReadsBack w.2)
    (fuel : Nat) (shape : Shape) (rest : List Char)
    (hfuel : (quoted field.1 ++ ':' :: (field.2.chars ++ charsOfFields fields)).length ≤ fuel) :
    readFields fuel shape
        (quoted field.1 ++ ':' :: (field.2.chars ++ charsOfFields fields) ++ rest) =
      some (field :: fields, rest) := by
  obtain ⟨name, v⟩ := field
  induction fields generalizing name v fuel with
  | nil =>
    simp only [charsOfFields, List.length_append, List.length_cons, List.length_nil] at hfuel
    obtain ⟨fuel, rfl⟩ : ∃ k, fuel = k + 1 := ⟨fuel - 1, by omega⟩
    have hv := hread (name, v) List.mem_cons_self fuel (shape.field name) ('\x7d' :: rest)
      (by simp only; omega) (endsNumber_cons (by decide))
    rw [readFields, quoted, charsOfFields]
    simp only [List.cons_append, List.append_assoc, List.nil_append]
    rw [skipGap_cons (by decide)]
    simp only [readString_escaped, bind, Option.bind, String.ofList_toList]
    rw [skipGap_cons (by decide)]
    simp only [(hexact (name, v) List.mem_cons_self).skipGap, hv]
    rw [skipGap_cons (by decide)]
    rfl
  | cons next fields ih =>
    obtain ⟨name', w⟩ := next
    simp only [charsOfFields, List.length_append, List.length_cons] at hfuel
    obtain ⟨fuel, rfl⟩ : ∃ k, fuel = k + 1 := ⟨fuel - 1, by omega⟩
    have hv := hread (name, v) List.mem_cons_self fuel (shape.field name)
      (',' :: (quoted name' ++ ':' :: (w.chars ++ charsOfFields fields) ++ rest))
      (by simp only; omega) (endsNumber_cons (by decide))
    have hw := ih fuel name' w (fun x hx => hexact x (List.mem_cons_of_mem _ hx))
      (fun x hx => hread x (List.mem_cons_of_mem _ hx))
      (by simp only [List.length_append, List.length_cons]; omega)
    rw [readFields, quoted, charsOfFields]
    simp only [List.cons_append, List.append_assoc, List.nil_append] at hv hw ⊢
    rw [skipGap_cons (by decide)]
    simp only [readString_escaped, bind, Option.bind, String.ofList_toList]
    rw [skipGap_cons (by decide)]
    simp only [(hexact (name, v) List.mem_cons_self).skipGap, hv]
    rw [skipGap_cons (by decide)]
    simp only [hw, Option.map_some]

/-- Text that starts with a digit or a minus is read as a number. -/
theorem readValue_number {c : Char} (hc : c = '-' ∨ c.isDigit = true) (fuel : Nat)
    (shape : Shape) (cs : List Char) :
    readValue (fuel + 1) shape (c :: cs) = readNumber (c :: cs) := by
  have hne : c ≠ '"' ∧ c ≠ '[' ∧ c ≠ '\x7b' ∧ c ≠ 'n' ∧ c ≠ 't' ∧ c ≠ 'f' := by
    refine ⟨?_, ?_, ?_, ?_, ?_, ?_⟩ <;> rintro rfl <;> rcases hc with hc | hc <;> cases hc
  rw [readValue] <;> intros <;> simp_all

/-- **Reading back.** The characters of an exact document are read as it. -/
theorem readValue_chars {v : Json} (h : Exact v) : ReadsBack v := by
  induction h with
  | null =>
    intro fuel shape rest hfuel hrest
    simp only [chars, List.length_cons] at hfuel
    obtain ⟨fuel, rfl⟩ : ∃ k, fuel = k + 1 := ⟨fuel - 1, by omega⟩
    rfl
  | bool b =>
    intro fuel shape rest hfuel hrest
    cases b <;> simp only [chars, List.length_cons] at hfuel <;>
      obtain ⟨fuel, rfl⟩ : ∃ k, fuel = k + 1 := ⟨fuel - 1, by omega⟩ <;> rfl
  | integer n =>
    intro fuel shape rest hfuel hrest
    obtain ⟨c, cs, hcs, hc⟩ := exists_decimalInt n
    simp only [chars] at hfuel ⊢
    rw [hcs, List.length_cons] at hfuel
    obtain ⟨fuel, rfl⟩ : ∃ k, fuel = k + 1 := ⟨fuel - 1, by omega⟩
    rw [hcs, List.cons_append, readValue_number hc, ← List.cons_append, ← hcs]
    exact readNumber_decimalInt n hrest
  | text s =>
    intro fuel shape rest hfuel hrest
    simp only [chars, quoted, List.length_cons] at hfuel ⊢
    obtain ⟨fuel, rfl⟩ : ∃ k, fuel = k + 1 := ⟨fuel - 1, by omega⟩
    rw [List.cons_append, readValue, readString_quoted, Option.map_some]
    simp only [String.ofList_toList]
  | @list items hexact ih =>
    intro fuel shape rest hfuel hrest
    cases items with
    | nil =>
      simp only [chars, List.length_cons] at hfuel
      obtain ⟨fuel, rfl⟩ : ∃ k, fuel = k + 1 := ⟨fuel - 1, by omega⟩
      rfl
    | cons v items =>
      simp only [chars, List.length_cons] at hfuel ⊢
      obtain ⟨fuel, rfl⟩ : ∃ k, fuel = k + 1 := ⟨fuel - 1, by omega⟩
      have hitems := readItems_chars hexact ih fuel shape rest (by omega)
      obtain ⟨c, cs, hc, hgap, hbracket⟩ := (hexact v List.mem_cons_self).exists_chars
      rw [List.cons_append, readValue]
      rw [hc, List.cons_append, List.cons_append] at hitems ⊢
      rw [skipGap_cons hgap]
      split
      · rename_i heq
        exact absurd (List.cons.inj heq).1 hbracket
      · rw [hitems, Option.map_some]
  | @object fields hexact ih =>
    intro fuel shape rest hfuel hrest
    cases fields with
    | nil =>
      simp only [chars, List.length_cons] at hfuel
      obtain ⟨fuel, rfl⟩ : ∃ k, fuel = k + 1 := ⟨fuel - 1, by omega⟩
      rfl
    | cons field fields =>
      simp only [chars, List.length_cons] at hfuel ⊢
      obtain ⟨fuel, rfl⟩ : ∃ k, fuel = k + 1 := ⟨fuel - 1, by omega⟩
      have hfields := readFields_chars hexact ih fuel shape rest (by omega)
      rw [List.cons_append, readValue]
      rw [quoted, List.cons_append, List.cons_append] at hfields ⊢
      rw [skipGap_cons (by decide)]
      split
      · rename_i heq
        exact absurd (List.cons.inj heq).1 (by decide)
      · rw [hfields, Option.map_some]

/-- An exact document is what its text holds, whatever is wanted of it. -/
theorem readAs?_compact (shape : Shape) {v : Json} (h : Exact v) :
    readAs? shape v.compact = some v := by
  have hread := readValue_chars h (2 * v.chars.length + 2) shape [] (by omega) endsNumber_nil
  have hgap := h.skipGap []
  rw [List.append_nil] at hread hgap
  simp only [readAs?, compact, String.toList_ofList, readChars?, hgap, hread, bind, Option.bind]
  rfl

theorem read?_compact {v : Json} (h : Exact v) : read? v.compact = some v :=
  readAs?_compact .whole h

/-- Two exact documents with one text are equal. -/
theorem compact_inj {v w : Json} (hv : Exact v) (hw : Exact w) (h : v.compact = w.compact) :
    v = w := by
  have := read?_compact hv
  rw [h, read?_compact hw] at this
  exact (Option.some.inj this).symm

end MailSearch.Json
