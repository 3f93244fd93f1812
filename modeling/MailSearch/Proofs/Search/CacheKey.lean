import MailSearch.Proofs.Json.RoundTrip
import MailSearch.Proofs.Calendar.ReadBack
import MailSearch.Search.Service

/-!
# Cache keys

* `SearchOptions.fingerprint_eq_iff`: options have one fingerprint exactly if they have the same
  filters (`SearchOptions.SameFilters`).
* `cacheKey_inj`: a key tells apart all that it is made of, the namespace included. It is read from
  its end: a string's own quotes stand after backslashes, and its first quote does not, so the
  last string of a key begins where only one can begin (`quoted_unique`).
* `cacheKey_eq_iff`: so two pages have one key exactly if they are the same page.
-/

namespace MailSearch

open Json Calendar Text

/-! ## Filters -/

namespace Json

theorem ofText?_inj {a b : Option String} (h : ofText? a = ofText? b) : a = b := by
  cases a <;> cases b <;> cases h <;> rfl

theorem ofBool?_inj {a b : Option Bool} (h : ofBool? a = ofBool? b) : a = b := by
  cases a <;> cases b <;> cases h <;> rfl

theorem ofTexts_inj {a b : List String} (h : ofTexts a = ofTexts b) : a = b := by
  have := asTexts?_ofTexts a
  rw [h, asTexts?_ofTexts] at this
  exact (Option.some.inj this).symm

theorem map_ofTexts_inj {a b : Option (List String)}
    (h : (a.map ofTexts).getD null = (b.map ofTexts).getD null) : a = b := by
  cases a with
  | none =>
    cases b with
    | none => rfl
    | some b => cases h
  | some a =>
    cases b with
    | none => cases h
    | some b => rw [ofTexts_inj h]

end Json

theorem Calendar.map_text_inj {a b : Option Date} (h : a.map Date.text = b.map Date.text) :
    a = b := by
  cases a with
  | none =>
    cases b with
    | none => rfl
    | some b => cases h
  | some a =>
    cases b with
    | none => cases h
    | some b => rw [Date.text_inj (Option.some.inj h)]

namespace SearchOptions

theorem exact_toJson (o : SearchOptions) : Exact o.toJson := by
  have htexts : ∀ values : Option (List String), Exact ((values.map ofTexts).getD null) := by
    intro values
    cases values with
    | none => exact .null
    | some values => exact exact_ofTexts values
  refine .object ?_
  simp only [List.forall_mem_cons]
  exact ⟨exact_ofText? _, exact_ofText? _, exact_ofText? _, exact_ofText? _, exact_ofText? _,
    exact_ofBool? _, exact_ofBool? _, exact_ofBool? _, htexts _, htexts _, .integer _, .integer _,
    by simp⟩

/-- Options are told apart by their JSON forms. -/
theorem toJson_inj {o o' : SearchOptions} (h : o.toJson = o'.toJson) : o = o' := by
  simp only [toJson, object.injEq, List.cons.injEq, Prod.mk.injEq, true_and, and_true,
    integer.injEq, Int.natCast_inj] at h
  obtain ⟨hquery, hfrom, hsubject, hlow, hhigh, hattachments, hread, hstarred, haccounts, hlabels,
    hlimit, hoffset⟩ := h
  cases o
  cases o'
  simp only at *
  rw [ofText?_inj hquery, ofText?_inj hfrom, ofText?_inj hsubject,
    map_text_inj (ofText?_inj hlow), map_text_inj (ofText?_inj hhigh), ofBool?_inj hattachments,
    ofBool?_inj hread, ofBool?_inj hstarred, map_ofTexts_inj haccounts, map_ofTexts_inj hlabels,
    hlimit, hoffset]

/-- Options with one fingerprint have the same filters. -/
theorem fingerprint_inj {o o' : SearchOptions} (h : o.fingerprint = o'.fingerprint) :
    o.filters = o'.filters :=
  toJson_inj (compact_inj (exact_toJson _) (exact_toJson _) h)

/-- Options with the same filters, one by one. A filter that is absent differs from an empty one. -/
structure SameFilters (o o' : SearchOptions) : Prop where
  fromEmail : o.fromEmail = o'.fromEmail
  subject : o.subject = o'.subject
  dateFrom : o.dateFrom = o'.dateFrom
  dateTo : o.dateTo = o'.dateTo
  hasAttachments : o.hasAttachments = o'.hasAttachments
  isRead : o.isRead = o'.isRead
  isStarred : o.isStarred = o'.isStarred
  accountIds : o.accountIds = o'.accountIds
  labels : o.labels = o'.labels

theorem filters_eq_iff {o o' : SearchOptions} : o.filters = o'.filters ↔ o.SameFilters o' := by
  constructor
  · intro h
    simp only [filters, SearchOptions.mk.injEq, true_and, and_true] at h
    obtain ⟨hfrom, hsubject, hlow, hhigh, hattachments, hread, hstarred, haccounts, hlabels⟩ := h
    exact ⟨hfrom, hsubject, hlow, hhigh, hattachments, hread, hstarred, haccounts, hlabels⟩
  · rintro ⟨hfrom, hsubject, hlow, hhigh, hattachments, hread, hstarred, haccounts, hlabels⟩
    rw [filters, hfrom, hsubject, hlow, hhigh, hattachments, hread, hstarred, haccounts, hlabels,
      filters]

/-- Options have one fingerprint exactly if they have the same filters. -/
theorem fingerprint_eq_iff {o o' : SearchOptions} :
    o.fingerprint = o'.fingerprint ↔ o.SameFilters o' := by
  constructor
  · exact fun h => filters_eq_iff.mp (fingerprint_inj h)
  · intro h
    rw [fingerprint, filters_eq_iff.mpr h, fingerprint]

end SearchOptions

/-! ## Reading from the end -/

/-- A text with one mark in it twice is cut in one place, or one end holds the other's mark. -/
theorem cut_cases {α : Type} {mark : α} {xs ys us vs : List α}
    (h : xs ++ mark :: us = ys ++ mark :: vs) :
    (xs = ys ∧ us = vs) ∨ (∃ zs, us = zs ++ mark :: vs ∧ ys = xs ++ mark :: zs) ∨
      ∃ zs, vs = zs ++ mark :: us ∧ xs = ys ++ mark :: zs := by
  rcases List.append_eq_append_iff.mp h with ⟨zs, hys, hus⟩ | ⟨zs, hxs, hvs⟩
  · cases zs with
    | nil => exact .inl ⟨by simpa using hys.symm, (List.cons.inj hus).2⟩
    | cons z zs =>
      obtain ⟨rfl, hcut⟩ := List.cons.inj hus
      exact .inr (.inl ⟨zs, hcut, hys⟩)
  · cases zs with
    | nil => exact .inl ⟨by simpa using hxs, (List.cons.inj hvs).2.symm⟩
    | cons z zs =>
      obtain ⟨rfl, hcut⟩ := List.cons.inj hvs
      exact .inr (.inr ⟨zs, hcut, hxs⟩)

/-- The part after the last comma is told apart from the part before it. -/
theorem comma_unique {xs ys us vs : List Char} (hu : ',' ∉ us) (hv : ',' ∉ vs)
    (h : xs ++ ',' :: us = ys ++ ',' :: vs) : xs = ys ∧ us = vs := by
  rcases cut_cases h with h | ⟨zs, rfl, -⟩ | ⟨zs, rfl, -⟩
  · exact h
  · simp at hu
  · simp at hv

namespace Json

/-- A quote within an escaped character stands after its backslash. -/
theorem eq_of_escapeChar {c : Char} {xs ys : List Char} (h : escapeChar c = xs ++ '"' :: ys) :
    xs = ['\\'] := by
  have hhex : ∀ n < 16, hexDigit n ≠ '"' := by decide
  have hmem : '"' ∈ escapeChar c := by simp [h]
  rcases escapeChar_cases c with ⟨letter, -, hc⟩ | ⟨hcode, hc⟩ | ⟨hquote, -, -, hc⟩
  · rw [hc] at h
    match xs with
    | [] => simp at h
    | [x] => rw [(List.cons.inj h).1]
    | x :: y :: xs => simp at h
  · have h1 := hhex (c.toNat / 16) (by omega)
    have h2 := hhex (c.toNat % 16) (by omega)
    simp [hc, h1.symm, h2.symm] at hmem
  · simp [hc, hquote.symm] at hmem

/-- A quote within escaped text stands after a backslash. -/
theorem eq_append_of_escaped {cs xs ys : List Char} (h : cs.flatMap escapeChar = xs ++ '"' :: ys) :
    ∃ zs, xs = zs ++ ['\\'] := by
  induction cs generalizing xs with
  | nil => simp at h
  | cons c cs ih =>
    rw [List.flatMap_cons] at h
    rcases List.append_eq_append_iff.mp h with ⟨us, rfl, hus⟩ | ⟨us, hc, hus⟩
    · obtain ⟨zs, rfl⟩ := ih hus
      exact ⟨escapeChar c ++ zs, by simp⟩
    · cases us with
      | nil =>
        have hnil : cs.flatMap escapeChar = [] ++ '"' :: ys := by simpa using hus.symm
        obtain ⟨zs, hzs⟩ := ih hnil
        simp at hzs
      | cons u us =>
        obtain ⟨rfl, -⟩ := List.cons.inj hus
        exact ⟨[], eq_of_escapeChar hc⟩

theorem escaped_inj {s t : String}
    (h : s.toList.flatMap escapeChar = t.toList.flatMap escapeChar) : s = t := by
  have hs := readString_escaped .whole s.toList []
  rw [h, readString_escaped] at hs
  exact String.toList_inj.mp (Prod.mk.inj (Option.some.inj hs)).1.symm

/-- No quote after another character than a backslash stands within a string. -/
theorem not_escaped {s : String} {xs ys zs us : List Char} {c : Char} (hc : c ≠ '\\')
    (hs : s.toList.flatMap escapeChar = zs ++ '"' :: us) :
    xs ++ [c] ≠ ys ++ '"' :: zs := by
  intro h
  obtain ⟨ws, rfl⟩ := eq_append_of_escaped hs
  rw [← List.cons_append, ← List.append_assoc] at h
  exact hc (List.singleton_inj.mp (List.append_inj' h rfl).2)

/-- The last string of a text begins in one place only, where no backslash stands before it. -/
theorem quoted_unique {xs ys : List Char} {c d : Char} {s t : String} (hc : c ≠ '\\')
    (hd : d ≠ '\\') (h : xs ++ c :: quoted s = ys ++ d :: quoted t) :
    xs = ys ∧ c = d ∧ s = t := by
  have hcut : (xs ++ [c]) ++ '"' :: s.toList.flatMap escapeChar =
      (ys ++ [d]) ++ '"' :: t.toList.flatMap escapeChar := by
    have h' : ((xs ++ [c]) ++ '"' :: s.toList.flatMap escapeChar) ++ ['"'] =
        ((ys ++ [d]) ++ '"' :: t.toList.flatMap escapeChar) ++ ['"'] := by
      simpa [quoted] using h
    exact List.append_cancel_right h'
  rcases cut_cases hcut with ⟨hxs, hst⟩ | ⟨zs, hs, hys⟩ | ⟨zs, ht, hxs⟩
  · obtain ⟨hxs, hcd⟩ := List.append_inj' hxs rfl
    exact ⟨hxs, List.singleton_inj.mp hcd, escaped_inj hst⟩
  · exact absurd hys (not_escaped hd hs)
  · exact absurd hxs (not_escaped hc ht)

end Json

/-! ## Keys -/

theorem comma_not_mem_decimalInt (n : Nat) : ',' ∉ decimalInt n := by
  intro h
  rw [decimalInt, if_neg (by omega)] at h
  exact absurd (isDigit_of_mem_decimal h) (by decide)

theorem decimalInt_inj {m n : Nat} (h : decimalInt m = decimalInt n) : m = n := by
  rw [decimalInt, decimalInt, if_neg (by omega), if_neg (by omega)] at h
  simpa [digitsValue_decimal] using congrArg digitsValue h

/-- The characters of a key. -/
theorem toList_cacheKey (cacheNamespace userId fingerprint query : String) (offset limit : Nat) :
    (cacheKey cacheNamespace userId offset limit fingerprint query).toList =
      ((((((cacheNamespace.toList ++ [':']) ++ '[' :: quoted userId) ++ ',' :: decimalInt offset)
        ++ ',' :: decimalInt limit) ++ ',' :: quoted fingerprint) ++ ',' :: quoted query)
        ++ [']'] := by
  simp [cacheKey, compact, chars, charsOfItems]

/-- A key tells apart all that it is made of. -/
theorem cacheKey_inj {cacheNamespace cacheNamespace' userId userId' fingerprint fingerprint' query
    query' : String} {offset offset' limit limit' : Nat}
    (h : cacheKey cacheNamespace userId offset limit fingerprint query =
      cacheKey cacheNamespace' userId' offset' limit' fingerprint' query') :
    cacheNamespace = cacheNamespace' ∧ userId = userId' ∧ offset = offset' ∧ limit = limit' ∧
      fingerprint = fingerprint' ∧ query = query' := by
  have hchars := congrArg String.toList h
  rw [toList_cacheKey, toList_cacheKey] at hchars
  replace hchars := List.append_cancel_right hchars
  obtain ⟨hchars, -, hquery⟩ := quoted_unique (by decide) (by decide) hchars
  obtain ⟨hchars, -, hfingerprint⟩ := quoted_unique (by decide) (by decide) hchars
  obtain ⟨hchars, hlimit⟩ :=
    comma_unique (comma_not_mem_decimalInt _) (comma_not_mem_decimalInt _) hchars
  obtain ⟨hchars, hoffset⟩ :=
    comma_unique (comma_not_mem_decimalInt _) (comma_not_mem_decimalInt _) hchars
  obtain ⟨hchars, -, huser⟩ := quoted_unique (by decide) (by decide) hchars
  have hnamespace := String.toList_inj.mp (List.append_cancel_right hchars)
  exact ⟨hnamespace, huser, decimalInt_inj hoffset, decimalInt_inj hlimit, hfingerprint, hquery⟩

/-- **Keys of pages.** Two pages have one key exactly if they are the same page: of one namespace,
user, offset, page size and query text, and of the same filters. -/
theorem cacheKey_eq_iff {cacheNamespace cacheNamespace' userId userId' query query' : String}
    {limit limit' : Nat} {o o' : SearchOptions} :
    cacheKey cacheNamespace userId o.offset limit o.fingerprint query =
        cacheKey cacheNamespace' userId' o'.offset limit' o'.fingerprint query' ↔
      cacheNamespace = cacheNamespace' ∧ userId = userId' ∧ o.offset = o'.offset ∧
        limit = limit' ∧ query = query' ∧ o.SameFilters o' := by
  constructor
  · intro h
    obtain ⟨hnamespace, huser, hoffset, hlimit, hfingerprint, hquery⟩ := cacheKey_inj h
    exact ⟨hnamespace, huser, hoffset, hlimit, hquery,
      SearchOptions.fingerprint_eq_iff.mp hfingerprint⟩
  · rintro ⟨rfl, rfl, hoffset, rfl, rfl, hfilters⟩
    rw [hoffset, SearchOptions.fingerprint_eq_iff.mpr hfilters]

/-- An absent filter and an empty one give keys of their own. -/
example (o : SearchOptions) :
    cacheKey "mail" "u" 0 20 { o with labels := none, offset := 0 }.fingerprint "q" ≠
      cacheKey "mail" "u" 0 20 { o with labels := some [], offset := 0 }.fingerprint "q" := by
  intro h
  cases (SearchOptions.fingerprint_eq_iff.mp (cacheKey_inj h).2.2.2.2.1).labels

end MailSearch
