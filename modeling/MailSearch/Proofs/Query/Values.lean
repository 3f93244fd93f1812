import MailSearch.Proofs.Query.Coverage
import MailSearch.Proofs.Query.Kept

/-!
# Nothing empty is asked for

A term without a value is set aside, and no token is empty. So every folder that a query names and
every text that it searches for has a character (`ParsedQuery.folder_ne_empty`,
`ParsedQuery.text_ne_empty`).
-/

namespace MailSearch

open Text Calendar

namespace Token

theorem Spell.source_ne_nil {ts : List Token} {cs : List Char} (h : Spell ts cs) :
    ∀ t ∈ ts, t.source ≠ [] := by
  induction h with
  | nil => simp
  | cons _ hne _ ih =>
    intro t ht
    rcases List.mem_cons.mp ht with rfl | ht
    · exact hne
    · exact ih t ht

/-- The value of a term is missing, or it has a character. -/
theorem termValue_content_ne_nil {op : Operator} {cs content : List Char}
    (h : (termValue op cs).1.content? = some content) : content ≠ [] := by
  unfold termValue at h
  split at h
  · cases h
  · rename_i c cs
    split at h
    · cases h
    · rename_i hblank
      split at h
      · rename_i hphrase
        cases h
        split at hphrase
        · exact (closedPhrase?_content hphrase).1
        · cases hphrase
      · cases h
        show (c :: cs).takeWhile (!isBlank ·) ≠ []
        rw [List.takeWhile_cons_of_pos (by simpa using hblank)]
        exact List.cons_ne_nil _ _

theorem term_of_first {c : Char} {cs keyword content : List Char} {negated : Bool} {op : Operator}
    {value : TermValue} (h : (first c cs).1 = .term negated keyword op value)
    (hvalue : value.content? = some content) : content ≠ [] := by
  unfold first at h
  split at h
  · cases h
  · split at h
    · cases h
      exact termValue_content_ne_nil hvalue
    · cases h

/-- The value of a term of a query has a character. -/
theorem term_of_mem_scan {cs keyword content : List Char} {negated : Bool} {op : Operator}
    {value : TermValue} (h : .term negated keyword op value ∈ scan cs)
    (hvalue : value.content? = some content) : content ≠ [] :=
  forall_mem_scan (P := fun t => ∀ negated keyword op value content,
      t = .term negated keyword op value → value.content? = some content → content ≠ [])
    (fun _ _ _ _ _ _ _ _ h hv => term_of_first h hv) cs _ h _ _ _ _ _ rfl hvalue

end Token

namespace ParsedQuery

/-- The folders of a query are those that its applied terms name. -/
theorem folders_parse (now : Timestamp) (query : String) :
    (parse now query).folders = Token.mentioned now (Token.scan query.toList) .folder :=
  mentioned_foldl (fun h => h.folders) (fun _ _ => rfl) rfl _

/-- A query names no empty folder. -/
theorem folder_ne_empty (now : Timestamp) (query : String) :
    "" ∉ (ParsedQuery.parse now query).folders := by
  rw [folders_parse]
  intro hmem
  obtain ⟨r, hr, hvalue⟩ := List.mem_map.mp (List.mem_eraseDups.mp hmem)
  obtain ⟨t, ht, happlied⟩ := List.mem_filterMap.mp (List.mem_filter.mp hr).1
  obtain ⟨content, keyword, value, rfl, hcontent, htext, -⟩ := Token.exists_of_applied? happlied
  have hne := Token.term_of_mem_scan ht hcontent
  exact hne (by simpa [htext] using hvalue)

/-- A query searches for no empty text. -/
theorem text_ne_empty (now : Timestamp) (query : String) :
    "" ∉ (ParsedQuery.parse now query).texts := by
  intro h
  rcases mem_texts h with h | h
  · exact (Token.phrase_of_mem_scan h).1 rfl
  · exact (Token.scan_spell _).source_ne_nil _ h rfl

end ParsedQuery

end MailSearch
