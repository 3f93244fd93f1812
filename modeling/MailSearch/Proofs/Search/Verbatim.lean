import MailSearch.Proofs.Clause.Containment
import MailSearch.Proofs.Clause.Stored
import MailSearch.Proofs.Text.Verbatim

/-!
# What stands in a message is found, sigmas aside

A search for a word finds the messages that the word stands in, wherever one looks for texts:
unless casing decides the form of a sigma of the word by what stands around it
(`Text.HasLooseSigma`). `TextPlace.found_verbatim_iff` says that these words are the only ones that
can be missed, where the store looks at all: before the first NUL character of a text, and for words
that a pattern has room for. `TextPlace.word_within_word_missed` is a message that is missed.
-/

namespace MailSearch

open Text

/-! ## Needles that are missed -/

namespace Exchanges

variable {f : Char → Char} (hf : Exchanges f)
include hf

theorem endsCased_map (afterCased : Bool) (cs : List Char) :
    endsCased afterCased (cs.map f) = endsCased afterCased cs := by
  simp only [endsCased, List.foldl_map, hf.isCaseIgnorable_eq, hf.isCased_eq]

theorem all_isCaseIgnorable_map (cs : List Char) :
    (cs.map f).all isCaseIgnorable = cs.all isCaseIgnorable := by
  simp only [List.all_map, Function.comp_def, hf.isCaseIgnorable_eq]

/-- A loose sigma stays one when confused characters are exchanged. -/
theorem hasLooseSigma_map {cs : List Char} (h : HasLooseSigma cs) : HasLooseSigma (cs.map f) := by
  obtain ⟨before, rest, rfl, hloose⟩ := h
  refine ⟨before.map f, rest.map f, ?_, ?_⟩
  · rw [List.map_append, List.map_cons, hf.eq_of_not_confused (c := 'Σ') (by decide)]
  · rwa [hf.endsCased_map, hf.all_isCaseIgnorable_map, hf.all_isCaseIgnorable_map,
      hf.startsCased_map]

end Exchanges

/-- The store too misses a needle with a loose sigma in some text. -/
theorem exists_likeFolded_missed {needle : String} (h : HasLooseSigma needle.toList)
    (hnul : '\u0000' ∉ needle.toList) :
    ∃ hay : String, '\u0000' ∉ hay.toList ∧ needle.toList <:+: hay.toList ∧
      likeFolded hay needle = false := by
  obtain ⟨before, after, hletters, hmissed⟩ :=
    exists_missed (exchanges_mergedChar.hasLooseSigma_map h)
  obtain ⟨hbefore, hafter⟩ := List.forall_mem_append.mp hletters
  have hmerged {cs : List Char} (hcs : ∀ c ∈ cs, c = 'a') : cs.map mergedChar = cs := by
    rw [List.map_congr_left fun c hc => mergedChar_of_not_confused (hcs c hc ▸ by decide),
      List.map_id']
  have hhay : '\u0000' ∉ before ++ needle.toList ++ after := by
    simp only [List.mem_append, not_or]
    exact ⟨⟨fun hc => absurd (hbefore _ hc) (by decide), hnul⟩,
      fun hc => absurd (hafter _ hc) (by decide)⟩
  refine ⟨String.ofList (before ++ needle.toList ++ after), ?_, ?_, ?_⟩
  · rwa [String.toList_ofList]
  · rw [String.toList_ofList]
    exact List.infix_append _ _ _
  · rw [Bool.eq_false_iff, Ne, likeFolded_iff hnul, fold_toList, fold_toList, String.toList_ofList,
      beforeNul_lowercase, beforeNul_of_not_mem hhay, ← exchanges_mergedChar.lowercase_map,
      ← exchanges_mergedChar.lowercase_map, List.map_append, List.map_append, hmerged hbefore,
      hmerged hafter]
    exact hmissed

/-! ## Places -/

/-- Where a message has texts that a search can look at. -/
inductive TextPlace where
  | subject
  | address (field : AddressField)
  | filename
  /-- The places of free text: the subject, the bodies and the sender. -/
  | anywhere
  deriving DecidableEq, Repr

namespace TextPlace

/-- The texts that a message has there. A missing subject counts as an empty one. -/
def texts (m : Message) : TextPlace → List String
  | subject => [m.subject.getD ""]
  | address field => m.addresses field
  | filename => m.attachments.map (·.filename)
  | anywhere => m.searchedTexts

/-- The predicate that a text there contains the needle. -/
def containing (needle : String) : TextPlace → Predicate
  | subject => .subjectContains [needle] false
  | address field => .addressContains field [needle] false
  | filename => .attachmentNamed [needle]
  | anywhere => .mentions [needle]

/-- The needle stands in a text of the message, word for word. -/
def HasVerbatim (place : TextPlace) (needle : String) (m : Message) : Prop :=
  ∃ text ∈ place.texts m, needle.toList <:+: text.toList

/-- It stands there before the text ends for the store. -/
def HasVisible (place : TextPlace) (needle : String) (m : Message) : Prop :=
  ∃ text ∈ place.texts m, needle.toList <:+: beforeNul text.toList

/-! ## What the predicate looks at -/

theorem containsAny_singleton (needle hay : String) :
    containsAny [needle] hay = containsFolded hay needle := by
  rw [containsAny, List.any_cons, List.any_nil, Bool.or_false]

theorem likesAny_singleton (needle hay : String) :
    likesAny [needle] hay = likeFolded hay needle := by
  rw [likesAny, List.any_cons, List.any_nil, Bool.or_false]

/-- The predicate holds if one of the texts contains the needle, case aside. -/
theorem holds_containing (place : TextPlace) (needle : String) (m : Message) :
    (place.containing needle).holds m = (place.texts m).any (containsFolded · needle) := by
  have hany : containsAny [needle] = (containsFolded · needle) :=
    funext (containsAny_singleton needle)
  cases place with
  | subject =>
    rw [containing, Predicate.holds, Bool.bne_false, hany, texts, List.any_cons, List.any_nil,
      Bool.or_false]
  | address field => rw [containing, Predicate.holds, Bool.bne_false, hany, texts]
  | filename =>
    rw [containing, Predicate.holds, texts, List.any_map, hany]
    rfl
  | anywhere =>
    rw [containing, Predicate.holds, List.all_cons, List.all_nil, Bool.and_true, texts]

/-- The store finds the message if it finds the needle in one of the texts. -/
theorem storeHolds_containing {place : TextPlace} {needle text : String} {m : Message}
    (htext : text ∈ place.texts m) (hfound : likeFolded text needle = true) :
    (place.containing needle).storeHolds m = true := by
  have hany : likesAny [needle] text = true := (likesAny_singleton needle text).trans hfound
  cases place with
  | subject =>
    rw [texts, List.mem_singleton] at htext
    rw [containing, Predicate.storeHolds, Bool.bne_false, ← htext, hany]
  | address field =>
    rw [containing, Predicate.storeHolds, Bool.bne_false, List.any_eq_true]
    exact ⟨text, htext, hany⟩
  | filename =>
    obtain ⟨a, ha, rfl⟩ := List.mem_map.mp htext
    rw [containing, Predicate.storeHolds, List.any_eq_true]
    exact ⟨a, ha, hany⟩
  | anywhere =>
    have hfields : m.searchedTexts = m.searchedFields.filterMap (·.2) := rfl
    rw [texts, hfields, List.mem_filterMap] at htext
    obtain ⟨field, hfield, hvalue⟩ := htext
    rw [containing, Predicate.storeHolds, List.all_cons, List.all_nil, Bool.and_true,
      List.any_eq_true]
    exact ⟨field, hfield, by rwa [hvalue]⟩

/-! ## A message for a text -/

/-- A message without any text. -/
def blankMessage : Message := {
  id := ""
  userId := ""
  accountId := ""
  threadId := none
  subject := none
  fromAddress := none
  fromName := none
  toAddresses := []
  ccAddresses := []
  bccAddresses := []
  bodyText := none
  bodyHtml := none
  sentAt := .startOfDay ⟨2000, 1, 1, by decide⟩
  isRead := false
  isStarred := false
  isImportant := false
  folder := none
  labels := []
  attachments := [] }

/-- A message with one text, which stands there. -/
def messageWith (text : String) : TextPlace → Message
  | subject => { blankMessage with subject := some text }
  | address .sender => { blankMessage with fromAddress := some text }
  | address .recipient => { blankMessage with toAddresses := [text] }
  | address .cc => { blankMessage with ccAddresses := [text] }
  | address .bcc => { blankMessage with bccAddresses := [text] }
  | filename => { blankMessage with attachments := [⟨"", "", text, none, 0⟩] }
  | anywhere => { blankMessage with bodyText := some text }

theorem texts_messageWith (text : String) (place : TextPlace) :
    place.texts (messageWith text place) = [text] := by
  rcases place with _ | field | _ | _
  · rfl
  · cases field <;> rfl
  · rfl
  · rfl

/-- Its attachments have rows in a store. -/
theorem exists_rows (text : String) (place : TextPlace) :
    ∃ rows, AttachmentsOf rows (messageWith text place) := by
  by_cases hplace : place = filename
  · subst hplace
    obtain ⟨row, hrow⟩ : ∃ row : AttachmentRow, row.Of ⟨"", "", text, none, 0⟩ := ⟨_, rfl⟩
    refine ⟨[row], fun r hr => ⟨_, List.mem_singleton.mp hr ▸ hrow⟩, fun a => ?_⟩
    simp only [messageWith, List.mem_singleton, exists_eq_left]
    exact ⟨fun ha => ha ▸ hrow, fun ha => ha.unique hrow⟩
  · have hnone : (messageWith text place).attachments = [] := by
      rcases place with _ | field | _ | _
      · rfl
      · cases field <;> rfl
      · exact absurd rfl hplace
      · rfl
    exact ⟨[], fun r hr => absurd hr List.not_mem_nil, fun a => by simp [hnone]⟩

/-- The store finds the message if it finds the needle in that text. -/
theorem storeHolds_messageWith {needle : String} (hempty : likeFolded "" needle = false)
    (text : String) (place : TextPlace) :
    (place.containing needle).storeHolds (messageWith text place) = likeFolded text needle := by
  have hany : likesAny [needle] = (likeFolded · needle) := funext (likesAny_singleton needle)
  rcases place with _ | field | _ | _
  · simp [containing, Predicate.storeHolds, hany, messageWith]
  · cases field <;>
      simp [containing, Predicate.storeHolds, hany, messageWith, Message.addresses]
  · simp [containing, Predicate.storeHolds, hany, messageWith]
  · simp [containing, Predicate.storeHolds, Message.searchedFields, messageWith, blankMessage,
      hempty]

/-! ## The words that are found -/

theorem patternsFit_containing (place : TextPlace) {needle : String} (h : PatternFits needle) :
    (place.containing needle).PatternsFit := by
  cases place <;> exact List.forall_mem_singleton.mpr h

section TooLong

variable {needle : String} (h : ¬ PatternFits needle) {m : Message} {rows : List AttachmentRow}
include h

/-- A needle that is too long fails the search for it among some items. -/
theorem truth_someItem_of_not_fits {row : MessageRow} {list : ListColumn} {values : List String}
    (hvalues : values ≠ []) (hcell : row list.column = .ofTexts values) :
    (Scope.someItem list (.one (.containsAny (.item list) [needle]))).truth row rows =
      .error .patternTooLong := by
  obtain ⟨value, values, rfl⟩ := List.exists_cons_of_ne_nil hvalues
  have hbody : (Body.one (.containsAny (.item list) [needle])).truth
      { message := row, item := .text value } = .error .patternTooLong :=
    Choice.truth_containsAny_of_not_fits rfl h
  simp only [Scope.truth, hcell, Cell.items?_ofTexts, List.map_cons, anyTrue, hbody]
  rfl

/-- So it does among some attachments. -/
theorem truth_someAttachment_of_not_fits (hne : m.attachments ≠ []) (hrows : AttachmentsOf rows m) :
    (Scope.someAttachment (some (.one (.containsAny (.attachment .filename) [needle])))).truth
      (MessageRow.ofMessage m) rows = .error .patternTooLong := by
  obtain ⟨a, ha⟩ := List.exists_mem_of_ne_nil m.attachments hne
  obtain ⟨r, hr, -⟩ := (hrows.mem_iff a).mp ha
  obtain ⟨row, rest, rfl⟩ := List.exists_cons_of_ne_nil (List.ne_nil_of_mem hr)
  obtain ⟨x, hx⟩ := hrows.of_row row List.mem_cons_self
  have hcell : (Operand.attachment .filename).cell
      { message := MessageRow.ofMessage m, attachment := row } = .text x.filename :=
    hx.cells.2.2.2.1
  have hbody : (Body.one (.containsAny (.attachment .filename) [needle])).truth
      { message := MessageRow.ofMessage m, attachment := row } = .error .patternTooLong :=
    Choice.truth_containsAny_of_not_fits hcell h
  simp only [Scope.truth, anyTrue, hbody]
  rfl

/-- So a search for it fails at every message with a text in the place. -/
theorem truth_of_not_fits {place : TextPlace} (htexts : place.texts m ≠ [])
    (hrows : AttachmentsOf rows m) :
    (place.containing needle).condition.truth (MessageRow.ofMessage m) rows =
      .error .patternTooLong := by
  have hcondition {scope : Scope}
      (hscope : scope.truth (MessageRow.ofMessage m) rows = .error .patternTooLong) :
      (Condition.mk false scope).truth (MessageRow.ofMessage m) rows = .error .patternTooLong := by
    rw [Condition.truth, hscope]
    rfl
  cases place with
  | subject => exact hcondition (Choice.truth_containsAny_of_not_fits (cell_orEmpty rfl) h)
  | address field =>
    cases field with
    | sender => exact hcondition (Choice.truth_containsAny_of_not_fits (cell_orEmpty rfl) h)
    | recipient => exact hcondition (truth_someItem_of_not_fits h htexts rfl)
    | cc => exact hcondition (truth_someItem_of_not_fits h htexts rfl)
    | bcc => exact hcondition (truth_someItem_of_not_fits h htexts rfl)
  | filename =>
    have hne : m.attachments ≠ [] := fun hnone => htexts (List.map_eq_nil_iff.mpr hnone)
    exact hcondition (truth_someAttachment_of_not_fits h hne hrows)
  | anywhere =>
    have hmentions := Choice.truth_mentions_of_not_fits h m
    refine hcondition ?_
    simp only [Scope.truth, Body.truth, List.map_cons, Truth.allOf, hmentions]

end TooLong

/-- In memory, every message that a needle stands in is found, unless the needle has a loose
sigma. -/
theorem holds_verbatim_iff (place : TextPlace) (needle : String) :
    (∀ m : Message, place.HasVerbatim needle m → (place.containing needle).holds m = true) ↔
      ¬ HasLooseSigma needle.toList := by
  constructor
  · intro hfound
    refine (forall_infix_iff needle.toList).mp fun hay hhay => ?_
    -- the message has the hay as its only text there
    have hstands : place.HasVerbatim needle (messageWith (String.ofList hay) place) := by
      refine ⟨String.ofList hay, ?_, by rwa [String.toList_ofList]⟩
      rw [texts_messageWith]
      exact List.mem_singleton_self _
    have hholds := hfound _ hstands
    rw [holds_containing, texts_messageWith, List.any_cons, List.any_nil, Bool.or_false,
      containsFolded_iff, fold_toList, fold_toList, String.toList_ofList] at hholds
    exact hholds
  · rintro hsigma m ⟨text, htext, hstands⟩
    rw [holds_containing, List.any_eq_true]
    refine ⟨text, htext, ?_⟩
    rw [containsFolded_iff, fold_toList, fold_toList]
    exact lowercase_isInfix hsigma hstands

/-- In an empty text, the store finds no needle but the empty one. -/
theorem likeFolded_empty {needle : String} (hne : needle.toList ≠ [])
    (hnul : '\u0000' ∉ needle.toList) : likeFolded "" needle = false := by
  have hnone : (beforeNul (fold "").toList).map mergedChar = [] := rfl
  rw [Bool.eq_false_iff, Ne, likeFolded_iff hnul, hnone, List.infix_nil, List.map_eq_nil_iff,
    fold_toList, lowercase_eq_nil_iff]
  exact hne

/-- In the store, so is every message that the needle stands in before a text ends. -/
theorem truth_visible_iff (place : TextPlace) {needle : String} (hfit : PatternFits needle)
    (hnul : '\u0000' ∉ needle.toList) :
    (∀ m : Message, place.HasVisible needle m → ∀ rows, AttachmentsOf rows m →
      (place.containing needle).condition.truth (MessageRow.ofMessage m) rows = .ok (some true)) ↔
        ¬ HasLooseSigma needle.toList := by
  constructor
  · intro hfound hsigma
    obtain ⟨hay, hhay, hstands, hmissed⟩ := exists_likeFolded_missed hsigma hnul
    obtain ⟨rows, hrows⟩ := exists_rows hay place
    have hne : needle.toList ≠ [] := by
      obtain ⟨before, rest, hneedle, -⟩ := hsigma
      simp [hneedle]
    have hvisible : place.HasVisible needle (messageWith hay place) := by
      refine ⟨hay, ?_, by rwa [beforeNul_of_not_mem hhay]⟩
      rw [texts_messageWith]
      exact List.mem_singleton_self _
    have htruth := hfound _ hvisible rows hrows
    rw [Predicate.truth_stored (place.patternsFit_containing hfit) hrows,
      storeHolds_messageWith (likeFolded_empty hne hnul), hmissed] at htruth
    cases htruth
  · rintro hsigma m ⟨text, htext, hstands⟩ rows hrows
    rw [Predicate.truth_stored (place.patternsFit_containing hfit) hrows,
      storeHolds_containing htext (likeFolded_of_contained (lowercase_isInfix hsigma hstands))]

/-- **Found as it stands.** In every place, a search for a needle finds in memory each message that
the needle stands in exactly if the needle has no loose sigma. So it is in the store with the
messages that the needle stands in before a text ends. For a needle that no pattern has room for,
the search fails instead. -/
theorem found_verbatim_iff (place : TextPlace) (needle : String) :
    ((∀ m : Message, place.HasVerbatim needle m → (place.containing needle).holds m = true) ↔
      ¬ HasLooseSigma needle.toList) ∧
    (PatternFits needle → '\u0000' ∉ needle.toList →
      ((∀ m : Message, place.HasVisible needle m → ∀ rows, AttachmentsOf rows m →
        (place.containing needle).condition.truth (MessageRow.ofMessage m) rows =
          .ok (some true)) ↔
        ¬ HasLooseSigma needle.toList)) ∧
    (¬ PatternFits needle → ∀ m : Message, place.texts m ≠ [] → ∀ rows, AttachmentsOf rows m →
      (place.containing needle).condition.truth (MessageRow.ofMessage m) rows =
        .error .patternTooLong) :=
  ⟨place.holds_verbatim_iff needle, fun hfit hnul => place.truth_visible_iff hfit hnul,
    fun hfit _ htexts _ hrows => truth_of_not_fits hfit htexts hrows⟩

/-- A subject that contains the needle word for word is not found: at the end of the needle the
sigma is a final one, within the subject it is not. -/
theorem word_within_word_missed :
    subject.HasVerbatim "ΑΣ" (messageWith "ΑΣΑ" subject) ∧
      (subject.containing "ΑΣ").holds (messageWith "ΑΣΑ" subject) = false ∧
      (subject.containing "ΑΣ").condition.truth
        (MessageRow.ofMessage (messageWith "ΑΣΑ" subject)) [] = .ok (some false) := by
  refine ⟨⟨"ΑΣΑ", List.mem_singleton_self _, [], ['Α'], by decide⟩, by decide +kernel, ?_⟩
  have hrows : AttachmentsOf [] (messageWith "ΑΣΑ" subject) :=
    ⟨by simp, by simp [messageWith, blankMessage]⟩
  have hfit : PatternFits "ΑΣ" := by decide +kernel
  rw [Predicate.truth_stored (subject.patternsFit_containing hfit) hrows]
  have hholds : (subject.containing "ΑΣ").storeHolds (messageWith "ΑΣΑ" subject) = false := by
    decide +kernel
  rw [hholds]

end TextPlace

end MailSearch
