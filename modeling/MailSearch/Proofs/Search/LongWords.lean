import MailSearch.Proofs.Query.Negation
import MailSearch.Proofs.Search.AddedTerms

/-!
# Words that the database cannot look for

There are words that a search for them does not find in the database, whatever the messages hold: a
word that no pattern has room for, and a word behind a NUL character. The database refuses to look
for the one and does not see the other, while in memory a search looks for both.
`Database.agreement_has_limits` is a search of either kind.
-/

namespace MailSearch

open Text Calendar

/-! ## A word of one letter over and over -/

/-- It holds neither blanks nor quotes. -/
theorem isBareValue_repeatedWord {n : Nat} (hn : n ≠ 0) : IsBareValue (repeatedWord n) := by
  have hletter : ∀ c ∈ (repeatedWord n).toList, c = 'y' := by
    rw [toList_repeatedWord]
    exact fun c hc => List.eq_of_mem_replicate hc
  have hlength : (repeatedWord n).toList.length = n := by
    rw [toList_repeatedWord, List.length_replicate]
  constructor
  case nonempty =>
    intro hempty
    rw [hempty] at hlength
    exact hn hlength.symm
  case blank =>
    intro c hc
    rw [hletter c hc]
    decide
  case quote => exact fun hc => absurd (hletter _ hc) (by decide)

/-- It is a word of the grammar. -/
theorem grammatical_repeatedWord {n : Nat} (hn : n ≠ 0) :
    (Token.word (repeatedWord n).toList).Grammatical := by
  have hne : (repeatedWord n).toList ≠ [] := fun hnil =>
    (isBareValue_repeatedWord hn).nonempty (String.toList_eq_nil_iff.mp hnil)
  refine .word_of_letters hne (List.all_eq_true.mpr fun c hc => ?_)
  rw [toList_repeatedWord] at hc
  rw [List.eq_of_mem_replicate hc]
  decide

/-- Without other filters, a query of one word asks for the word. -/
theorem PredicateSet.ofText_word {word : String} (h : (Token.word word.toList).Grammatical)
    (userId : String) (now : Timestamp) :
    ofText userId now word {} = ⟨userId, [.mentions [word]]⟩ := by
  rw [ofText, ParsedQuery.parse_word now h]
  simp [compile, Predicate.ofAccounts, Predicate.ofOptions, Predicate.ofQuery, Predicate.ofBounds,
    Predicate.given]

/-! ## A word that is too long -/

namespace Store

variable {word : String} (h : ¬ PatternFits word)
include h

/-- The store of the sample refuses to look for such a word in its message. -/
theorem select_of_not_fits :
    sampleStore.select (⟨"user-1", [.mentions [word]]⟩ : PredicateSet).clause =
      .error .patternTooLong := by
  have hrow := PredicateSet.select_of_not_fits h sampleCalls.message
    (sampleStore.attachmentRows (.text "m-1"))
  rw [select_of_messages_eq_singleton messages_sampleStore]
  exact congrArg (Except.map _) hrow

theorem find_of_not_fits (limit offset : Nat) :
    sampleStore.find (⟨"user-1", [.mentions [word]]⟩ : PredicateSet).clause limit offset =
      .error .patternTooLong := by
  have hclause : (⟨"user-1", [.mentions [word]]⟩ : PredicateSet).clause.Fits :=
    ⟨Nat.le_of_ble_eq_true rfl, Nat.le_of_ble_eq_true rfl⟩
  rw [find, hclause.prepare (Nat.le_refl 2), select_of_not_fits h]
  rfl

end Store

/-! ## A word behind a NUL character -/

/-- An account with one message, the subject of which goes on behind a NUL character. -/
def nulCalls : List StoreCall :=
  [.account ⟨"acc-1", "user-1", "ann@example.com", none⟩, .message message]
where
  /-- The message. -/
  message : Message :=
    { sampleCalls.message with subject := some "a\u0000b", attachments := [] }

theorem ofText_subject :
    PredicateSet.ofText "user-1" sampleCalls.message.sentAt "subject:b" {} =
      ⟨"user-1", [.subjectContains ["b"] false]⟩ := by
  have hquery : "subject:b".toList = ['s', 'u', 'b', 'j', 'e', 'c', 't', ':', 'b'] := by decide
  have hscan : Token.scan "subject:b".toList =
      [.term false ['s', 'u', 'b', 'j', 'e', 'c', 't'] .subject (.bare ['b'])] := by
    rw [hquery, Token.scan_of_trimLeft_cons rfl, Token.scan_of_trimLeft_nil rfl]
    decide
  rw [PredicateSet.ofText, ParsedQuery.parse, hscan]
  decide

namespace Database

/-- A word of the subject is not found if it stands behind a NUL character, though the predicates
hold of the message. -/
theorem word_behind_nul_missed :
    (∀ text ∈ nulCalls.message.comparedTexts, '\ufffe' ∉ text.toList ∧ '\uffff' ∉ text.toList) ∧
    (after nulCalls).getMessage "m-1" = .ok (some nulCalls.message) ∧
    (PredicateSet.ofText "user-1" sampleCalls.message.sentAt "subject:b" {}).holds
      nulCalls.message = true ∧
    (after nulCalls).find (PredicateSet.ofText "user-1" sampleCalls.message.sentAt
      "subject:b" {}).clause (2 ^ 63) 0 = .ok [] ∧
    (after nulCalls).count (PredicateSet.ofText "user-1" sampleCalls.message.sentAt
      "subject:b" {}).clause = .ok 0 := by
  obtain ⟨s, hs, hf⟩ := faithful_after nulCalls
  have hms : s.messages = [nulCalls.message].map MessageRow.ofMessage := by
    cases hs
    rfl
  have hfull : s.full nulCalls.message = nulCalls.message := by
    cases hs
    exact Store.full_eq_self rfl rfl
  have hregular : ∀ m ∈ [nulCalls.message], m.sentAt.IsRegular := by
    rw [List.forall_mem_singleton]
    decide
  have hyears : s.HasPlainYears := by
    refine Store.hasPlainYears_of_messages hms ?_
    rw [List.forall_mem_singleton]
    decide
  have hid : nulCalls.message.id = "m-1" := rfl
  rw [ofText_subject]
  have hfits : (⟨"user-1", [.subjectContains ["b"] false]⟩ : PredicateSet).Fits := by decide +kernel
  have htakes := hf.takes hfits
  have hnone : ∀ m ∈ [nulCalls.message],
      s.selects ⟨"user-1", [.subjectContains ["b"] false]⟩ m = false := by
    intro m hm
    rw [htakes.selects_eq hf (hms ▸ List.mem_map_of_mem hm), List.mem_singleton.mp hm, hfull]
    decide +kernel
  obtain ⟨hfind, hcount⟩ := htakes.find_nothing hms hnone (2 ^ 63) 0
  refine ⟨by decide, ?_, by decide +kernel, ?_, ?_⟩
  · rw [getMessage_eq hs, ← hid]
    exact (hf.getMessage_iff hyears hms (by simp) hregular).mpr ⟨_, List.mem_singleton_self _, rfl,
      hfull⟩
  · rw [find_eq hs, hfind]
  · rw [count_eq hs, hcount]

/-- **Limits of agreement.** A search for a word that is too long fails where there is a message to
decide it of. And a word behind a NUL character is not found, though the predicates hold of the
message. -/
theorem agreement_has_limits :
    (after sampleCalls).find (PredicateSet.ofText "user-1" sampleCalls.message.sentAt longWord
      {}).clause (2 ^ 63) 0 = .error .patternTooLong ∧
    (∀ text ∈ nulCalls.message.comparedTexts, '\ufffe' ∉ text.toList ∧ '\uffff' ∉ text.toList) ∧
    (after nulCalls).getMessage "m-1" = .ok (some nulCalls.message) ∧
    (PredicateSet.ofText "user-1" sampleCalls.message.sentAt "subject:b" {}).holds
      nulCalls.message = true ∧
    (after nulCalls).find (PredicateSet.ofText "user-1" sampleCalls.message.sentAt
      "subject:b" {}).clause (2 ^ 63) 0 = .ok [] ∧
    (after nulCalls).count (PredicateSet.ofText "user-1" sampleCalls.message.sentAt
      "subject:b" {}).clause = .ok 0 := by
  refine ⟨?_, word_behind_nul_missed⟩
  have hstore : (after sampleCalls).store = some sampleStore := rfl
  have hword : (Token.word longWord.toList).Grammatical := by
    unfold longWord
    exact grammatical_repeatedWord (by decide)
  rw [PredicateSet.ofText_word hword, find_eq hstore]
  exact Store.find_of_not_fits not_patternFits_longWord _ _

end Database

end MailSearch
