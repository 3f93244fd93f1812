import MailSearch.Proofs.Calendar.StoredOrder
import MailSearch.Proofs.Clause.Sizes

/-!
# Clauses mean their predicates

What the store decides of a stored message is what the predicate says
(`Predicate.storeHolds_eq_holds`), given

* `Message.HasPlainTexts` and a regular time in a plain year, for the message;
* `Predicate.IsComparable`, which keeps needles and bounds within what the store can compare;
* `Predicate.HasNoEmptyText`, which holds of every predicate that comes from a query.
-/

namespace MailSearch

open Text Calendar

/-! ## What is compared -/

/-- The texts of a message that needles are looked for in. -/
def Message.comparedTexts (m : Message) : List String :=
  m.searchedTexts ++ m.toAddresses ++ m.ccAddresses ++ m.bccAddresses ++
    m.attachments.map (·.filename)

/-- No text that needles are looked for in holds a NUL character or one of the two noncharacters. -/
def Message.HasPlainTexts (m : Message) : Prop := ∀ text ∈ m.comparedTexts, IsPlain text.toList

instance (m : Message) : Decidable m.HasPlainTexts := List.decidableBAll _ _

/-- The store compares with a time as it is: the time is regular and not after the year 9999. -/
def Calendar.Timestamp.IsBound (t : Timestamp) : Prop := t.date.year ≤ 9999 ∧ t.IsRegular

/-- The needles of the predicate are plain, a smallest size is one that the store can hold, and date
bounds are regular times up to the year 9999. -/
def Predicate.IsComparable : Predicate → Prop
  | addressContains _ needles _ => ∀ needle ∈ needles, IsPlain needle.toList
  | subjectContains needles _ => ∀ needle ∈ needles, IsPlain needle.toList
  | attachmentNamed needles => ∀ needle ∈ needles, IsPlain needle.toList
  | mentions terms => ∀ term ∈ terms, IsPlain term.toList
  | attachmentSized .smaller bytes => bytes.toNat ≤ maxInt64
  | sentWithin after before => (∀ t ∈ after, t.IsBound) ∧ ∀ t ∈ before, t.IsBound
  | _ => True

/-- The predicate asks for no folder and no term without a character. -/
def Predicate.HasNoEmptyText : Predicate → Prop
  | inFolders folders => "" ∉ folders
  | mentions terms => "" ∉ terms
  | _ => True

namespace Message.HasPlainTexts

variable {m : Message}

theorem of_searched (h : m.HasPlainTexts) {text : String} (ht : text ∈ m.searchedTexts) :
    IsPlain text.toList :=
  h text (by simp [comparedTexts, ht])

theorem getD (h : m.HasPlainTexts) {field : Option String}
    (hf : field ∈ [m.subject, m.bodyText, m.bodyHtml, m.fromAddress]) :
    IsPlain (field.getD "").toList := by
  cases field with
  | none => exact isPlain_nil
  | some text => exact h.of_searched (List.mem_filterMap.mpr ⟨_, hf, rfl⟩)

theorem of_filename (h : m.HasPlainTexts) {a : Attachment} (ha : a ∈ m.attachments) :
    IsPlain a.filename.toList :=
  h a.filename (List.mem_append_right _ (List.mem_map_of_mem ha))

end Message.HasPlainTexts

/-! ## Bounds -/

/-- The store misses no size below a bound that it can hold. -/
theorem Predicate.IsComparable.not_misses {side : SizeSide} {bytes : UInt64}
    (h : (Predicate.attachmentSized side bytes).IsComparable) (size : UInt64) :
    ¬ side.Misses size bytes := by
  rintro ⟨rfl, -, hbytes⟩
  exact absurd h (Nat.not_le.mpr hbytes)

theorem holds_atLeast {a b : Timestamp} :
    Comparison.atLeast.holds (compare a.rank b.rank) = decide (b ≤ a) := by
  rw [Bool.eq_iff_iff]
  simp only [Comparison.holds, ne_eq, decide_eq_true_eq, Timestamp.le_def]
  exact Int.compare_ne_lt

theorem holds_atMost {a b : Timestamp} :
    Comparison.atMost.holds (compare a.rank b.rank) = decide (a ≤ b) := by
  rw [Bool.eq_iff_iff]
  simp only [Comparison.holds, ne_eq, decide_eq_true_eq, Timestamp.le_def]
  exact Int.compare_ne_gt

section Bounds

variable {t bound : Timestamp} (ht : t.HasPlainYear) (hregular : t.IsRegular)
  (hbound : bound.IsBound)

include ht hregular hbound

/-- Plain times compare in the store as they do. -/
theorem holdsStored_atLeast : Comparison.atLeast.holdsStored t bound = decide (bound ≤ t) := by
  rw [Comparison.holdsStored, compare_stored ht hbound.1 hregular hbound.2, holds_atLeast]

theorem holdsStored_atMost : Comparison.atMost.holdsStored t bound = decide (t ≤ bound) := by
  rw [Comparison.holdsStored, compare_stored ht hbound.1 hregular hbound.2, holds_atMost]

end Bounds

/-! ## Missing texts -/

theorem fold_eq_empty_iff {s : String} : fold s = fold "" ↔ s = "" := by
  constructor
  · intro h
    have hchars := congrArg String.toList h
    rw [fold_toList, fold_toList] at hchars
    exact String.toList_eq_nil_iff.mp (lowercase_eq_nil_iff.mp hchars)
  · rintro rfl
    rfl

theorem isAny_empty {values : List String} (h : "" ∉ values) : isAny values "" = false := by
  rw [isAny, List.any_eq_false]
  intro v hv hfold
  exact h (fold_eq_empty_iff.mp (of_decide_eq_true hfold) ▸ hv)

theorem containsFolded_empty {term : String} (h : term ≠ "") : containsFolded "" term = false := by
  rw [← Bool.not_eq_true, containsFolded_iff, fold_toList, fold_toList]
  intro hinfix
  have hnil := List.eq_nil_of_infix_nil hinfix
  exact h (String.toList_eq_nil_iff.mp (lowercase_eq_nil_iff.mp hnil))

/-- A term stands in one of the searched columns, missing ones counted as empty, exactly if it
stands in one of the texts that are there. -/
theorem any_searchedFields (m : Message) {term : String} (h : term ≠ "") :
    (m.searchedFields.any fun f => containsFolded (f.2.getD "") term) =
      m.searchedTexts.any (containsFolded · term) := by
  have htexts : m.searchedTexts = m.searchedFields.filterMap (·.2) := rfl
  rw [htexts, List.any_filterMap]
  congr 1
  funext f
  cases f.2 with
  | none => exact containsFolded_empty h
  | some text => rfl

/-! ## Predicates -/

variable {m : Message}

theorem likesAny_eq_containsAny {needles : List String} {hay : String}
    (hneedles : ∀ needle ∈ needles, IsPlain needle.toList) (hhay : IsPlain hay.toList) :
    likesAny needles hay = containsAny needles hay := by
  rw [likesAny, containsAny, Bool.eq_iff_iff, List.any_eq_true, List.any_eq_true]
  refine exists_congr fun needle => and_congr_right fun hn => ?_
  rw [likeFolded_eq_containsFolded (hneedles needle hn) hhay]

theorem Message.HasPlainTexts.of_address (h : m.HasPlainTexts) {field : AddressField}
    {address : String} (ha : address ∈ m.addresses field) : IsPlain address.toList := by
  cases field with
  | sender =>
    rw [List.mem_singleton.mp ha]
    exact h.getD (by simp)
  | recipient => exact h address (by simp [comparedTexts, show address ∈ m.toAddresses from ha])
  | cc => exact h address (by simp [comparedTexts, show address ∈ m.ccAddresses from ha])
  | bcc => exact h address (by simp [comparedTexts, show address ∈ m.bccAddresses from ha])

/-- **One predicate.** What the store decides of a stored message is what the predicate says. -/
theorem Predicate.storeHolds_eq_holds (p : Predicate)
    (hsizes : ∀ a ∈ m.attachments, a.sizeBytes.toNat ≤ maxInt64)
    (hyear : m.sentAt.HasPlainYear) (hregular : m.sentAt.IsRegular) (htexts : m.HasPlainTexts)
    (hp : p.IsComparable) (hne : p.HasNoEmptyText) : p.storeHolds m = p.holds m := by
  cases p with
  | ownedBy userId => rfl
  | inAccounts accountIds => rfl
  | addressContains field needles negated =>
    have hany : (m.addresses field).any (likesAny needles) =
        (m.addresses field).any (containsAny needles) :=
      any_congr_of_mem fun a ha => likesAny_eq_containsAny hp (htexts.of_address ha)
    rw [storeHolds, hany, holds]
  | subjectContains needles negated =>
    have hsubject : IsPlain (m.subject.getD "").toList := htexts.getD (by simp)
    rw [storeHolds, likesAny_eq_containsAny hp hsubject, holds]
  | flagIs flag expected => rfl
  | attachmentExists expected => rfl
  | attachmentNamed needles =>
    exact any_congr_of_mem fun a ha => likesAny_eq_containsAny hp (htexts.of_filename ha)
  | attachmentSized side bytes =>
    exact any_congr_of_mem fun a ha =>
      (SizeSide.holds_stored_iff (hsizes a ha)).mpr (hp.not_misses _)
  | sentWithin after before =>
    obtain ⟨hafter, hbefore⟩ := hp
    have hlow : after.all (Comparison.atLeast.holdsStored m.sentAt) =
        after.all (fun t => decide (t ≤ m.sentAt)) := by
      cases after with
      | none => rfl
      | some t => exact holdsStored_atLeast hyear hregular (hafter t rfl)
    have hhigh : before.all (Comparison.atMost.holdsStored m.sentAt) =
        before.all (fun t => decide (m.sentAt ≤ t)) := by
      cases before with
      | none => rfl
      | some t => exact holdsStored_atMost hyear hregular (hbefore t rfl)
    rw [storeHolds, hlow, hhigh, holds]
  | inFolders folders =>
    rw [storeHolds, holds]
    cases m.folder with
    | none => exact isAny_empty hne
    | some folder => rfl
  | labelled labels => rfl
  | mentions terms =>
    rw [storeHolds, holds, Bool.eq_iff_iff, List.all_eq_true, List.all_eq_true]
    refine forall₂_congr fun term hterm => ?_
    have hempty : term ≠ "" := fun h => hne (h ▸ hterm)
    rw [← any_searchedFields m hempty, any_congr_of_mem fun f hf => ?_]
    have hmem : f.2 ∈ [m.subject, m.bodyText, m.bodyHtml, m.fromAddress] :=
      List.mem_map_of_mem (f := Prod.snd) hf
    exact likeFolded_eq_containsFolded (hp term hterm) (htexts.getD hmem)

end MailSearch
