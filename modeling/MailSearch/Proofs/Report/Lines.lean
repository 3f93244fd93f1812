import MailSearch.Proofs.Report.Columns
import MailSearch.Proofs.Text.Digits

/-!
# Lines of tables

Each line of a report ends with a line feed, and a text that stands in a cell may hold one, too.

* `splitOn_flatMap_line_iff`: a report has the lines that it was made of exactly if none of them
  holds a line feed.
* `count_rowText`: a message has no line feeds in its line but those that are shown of its sender
  and its subject (`shownBreaks`).
* `table_lines_iff`: so a table has one line for each message exactly if no line feed is shown of
  them. `broken_subject` is a message that takes two lines.
-/

namespace MailSearch.Report

open Text Calendar

/-! ## Lines -/

theorem splitOn_flatMap_line {ls : List (List Char)} (h : ∀ l ∈ ls, '\n' ∉ l) :
    (ls.flatMap line).splitOn '\n' = ls ++ [[]] := by
  induction ls with
  | nil => rfl
  | cons l ls ih =>
    have hl : '\n' ∉ l := h l List.mem_cons_self
    have hls := ih fun l' hl' => h l' (List.mem_cons_of_mem _ hl')
    rw [List.flatMap_cons, line, List.append_assoc, List.singleton_append,
      List.splitOn_append_cons_self_of_not_mem hl, hls]
    rfl

/-- A text has one piece more than it has separators. -/
theorem length_splitOn (a : Char) (cs : List Char) : (cs.splitOn a).length = cs.count a + 1 := by
  induction cs with
  | nil => rfl
  | cons c cs ih =>
    rw [List.splitOn_cons_eq_if_modifyHead, List.count_cons]
    split
    · rw [List.length_cons, ih]
    · rw [List.length_modifyHead, ih]

theorem count_flatMap_line (ls : List (List Char)) :
    (ls.flatMap line).count '\n' = ls.length + (ls.map (List.count '\n')).sum := by
  induction ls with
  | nil => rfl
  | cons l ls ih =>
    have hline : (line l).count '\n' = l.count '\n' + 1 := by
      rw [line, List.count_append, List.count_singleton_self]
    rw [List.flatMap_cons, List.count_append, hline, ih, List.length_cons, List.map_cons,
      List.sum_cons]
    omega

/-- A report has the lines that it was made of exactly if none of them holds a line feed. -/
theorem splitOn_flatMap_line_iff {ls : List (List Char)} :
    (ls.flatMap line).splitOn '\n' = ls ++ [[]] ↔ (ls.map (List.count '\n')).sum = 0 := by
  constructor
  · intro h
    have hlength := congrArg List.length h
    rw [length_splitOn, count_flatMap_line, List.length_append] at hlength
    simp only [List.length_singleton] at hlength
    omega
  · intro h
    refine splitOn_flatMap_line fun l hl => ?_
    have hzero := List.sum_eq_zero_iff.mp h _ (List.mem_map_of_mem hl)
    exact List.count_eq_zero.mp hzero

/-! ## Texts on one line -/

theorem lineFeed_not_mem_decimal (n : Nat) : '\n' ∉ decimal n := by
  intro h
  have hdigit := isDigit_of_mem_decimal h
  revert hdigit
  decide

theorem lineFeed_not_mem_padded (width n : Nat) : '\n' ∉ padded width n := by
  intro h
  have hdigit := isDigit_of_mem_padded h
  revert hdigit
  decide

theorem lineFeed_not_mem_chars (d : Date) : '\n' ∉ d.chars := by
  have hyear : '\n' ∉ yearText d.year := by
    unfold yearText
    split
    · exact lineFeed_not_mem_padded _ _
    · split <;> simp [lineFeed_not_mem_padded]
  simp [Date.chars, hyear, lineFeed_not_mem_padded]

theorem lineFeed_not_mem_relativeDate (now sent : Timestamp) : '\n' ∉ relativeDate now sent := by
  have hcount (n : Nat) {ago : String} (h : '\n' ∉ ago.toList) :
      '\n' ∉ decimal n ++ ago.toList := by
    simp [lineFeed_not_mem_decimal, h]
  unfold relativeDate
  simp only
  split
  · decide
  split
  · decide
  split
  · exact hcount _ (by decide)
  split
  · exact hcount _ (by decide)
  split
  · decide
  split
  · exact hcount _ (by decide)
  · exact lineFeed_not_mem_chars _

/-- What is cut off a text brings no line feed. -/
theorem lineFeed_not_mem_truncate (width : Nat) {cs : List Char} (h : '\n' ∉ cs) :
    '\n' ∉ truncate width cs := by
  obtain ⟨-, hcut⟩ | ⟨-, hcut⟩ := truncate_cases width cs
  · rwa [hcut]
  · have hkept : '\n' ∉ keptStart width cs := fun hmem =>
      h ((keptStart_isPrefix width cs).subset hmem)
    rw [hcut]
    simp [hkept]

/-! ## Tables -/

/-- The line feeds that are shown of the sender and of the subject of a message. -/
def shownBreaks (m : Message) : Nat :=
  (truncate fromWidth (senderText m).toList).count '\n' +
    (truncate subjectWidth (subjectText m).toList).count '\n'

theorem shownBreaks_eq_zero {m : Message} (hsender : '\n' ∉ (senderText m).toList)
    (hsubject : '\n' ∉ (subjectText m).toList) : shownBreaks m = 0 := by
  rw [shownBreaks, List.count_eq_zero.mpr (lineFeed_not_mem_truncate _ hsender),
    List.count_eq_zero.mpr (lineFeed_not_mem_truncate _ hsubject)]

theorem count_padRight (width : Nat) (cs : List Char) :
    (padRight width cs).count '\n' = cs.count '\n' := by
  have hspaces : (List.replicate (width - textWidth cs) ' ').count '\n' = 0 := by
    simp [List.count_replicate]
  rw [padRight, List.count_append, hspaces, Nat.add_zero]

/-- The text of the line of a message. -/
def rowText (now : Timestamp) (m : Message) : List Char :=
  [' ', ' '].intercalate (messageCells now m)

theorem messageRow_eq_line (now : Timestamp) : messageRow now = fun m => line (rowText now m) := rfl

theorem count_rowText (now : Timestamp) (m : Message) :
    (rowText now m).count '\n' = shownBreaks m := by
  have hmarks : ∀ a b c d : Bool,
      [mark a '*', mark b 's', mark c '!', mark d '@'].count '\n' = 0 := by decide
  have hflags : (flags m).count '\n' = 0 := hmarks _ _ _ _
  have hdate : (truncate dateWidth (relativeDate now m.sentAt)).count '\n' = 0 :=
    List.count_eq_zero.mpr (lineFeed_not_mem_truncate _ (lineFeed_not_mem_relativeDate _ _))
  have hcells : rowText now m = padRight flagsWidth (flags m) ++ [' ', ' '] ++
      padRight fromWidth (truncate fromWidth (senderText m).toList) ++ [' ', ' '] ++
      padRight subjectWidth (truncate subjectWidth (subjectText m).toList) ++ [' ', ' '] ++
      truncate dateWidth (relativeDate now m.sentAt) := by
    simp [rowText, messageCells, cell, List.intercalate]
  have hgap : [' ', ' '].count '\n' = 0 := by decide
  simp only [hcells, List.count_append, count_padRight, hflags, hdate, hgap, shownBreaks]
  omega

/-- The two lines of the header. -/
def headerLines : List (List Char) :=
  [[' ', ' '].intercalate [fill flagsWidth [], fill fromWidth "From".toList,
      fill subjectWidth "Subject".toList, fill dateWidth "Date".toList],
    [' ', ' '].intercalate [dashes flagsWidth, dashes fromWidth, dashes subjectWidth,
      dashes dateWidth]]

theorem header_eq_flatMap : header = headerLines.flatMap line := by
  rw [headerLines, List.flatMap_cons, List.flatMap_singleton]
  rfl

/-- The text of the footer. -/
def footerText (r : SearchResult) : List Char :=
  "Showing ".toList ++ decimal r.page.messages.length ++ " of ".toList ++
    decimal r.page.total ++ " (".toList ++ decimal r.searchTimeMs ++ " ms".toList ++
    (if r.cached then ", cached".toList else []) ++ [')']

theorem footer_eq_line (r : SearchResult) : footer r = line (footerText r) := rfl

theorem lineFeed_not_mem_footerText (r : SearchResult) : '\n' ∉ footerText r := by
  have hcached : '\n' ∉ if r.cached then ", cached".toList else [] := by
    cases r.cached <;> decide
  unfold footerText
  simp only [List.mem_append, lineFeed_not_mem_decimal, hcached, or_false, not_or]
  exact ⟨⟨⟨⟨by decide, by decide⟩, by decide⟩, by decide⟩, by decide⟩

/-- The lines of a table without suggestions and ignored terms: those of the header, one for each
message, an empty one and the footer. -/
def tableLines (now : Timestamp) (r : SearchResult) : List (List Char) :=
  headerLines ++ r.page.messages.map (rowText now) ++ [[], footerText r]

theorem searchResult_eq_flatMap {now : Timestamp} {r : SearchResult}
    (hmessages : r.page.messages ≠ []) (hsuggestions : r.suggestions = [])
    (hignored : (r.query.map (·.ignored)).getD [] = []) :
    searchResult now r = (tableLines now r).flatMap line := by
  have hempty : ¬ r.page.messages.isEmpty = true := by simpa using hmessages
  have hsuggestionLines : suggestionLines r.suggestions = [] := by rw [hsuggestions]; rfl
  have hignoredLines : ignoredLines ((r.query.map (·.ignored)).getD []) = [] := by
    rw [hignored]; rfl
  have hrows : r.page.messages.flatMap (messageRow now) =
      (r.page.messages.map (rowText now)).flatMap line := by
    rw [List.flatMap_map, messageRow_eq_line]
  rw [searchResult, messageTable, if_neg hempty, hsuggestionLines, hignoredLines, hrows,
    header_eq_flatMap, footer_eq_line, tableLines, List.flatMap_append, List.flatMap_append,
    List.append_nil, List.append_nil, List.append_assoc _ (line []), List.flatMap_cons,
    List.flatMap_singleton]

theorem sum_count_tableLines (now : Timestamp) (r : SearchResult) :
    ((tableLines now r).map (List.count '\n')).sum = (r.page.messages.map shownBreaks).sum := by
  have hheader : (headerLines.map (List.count '\n')).sum = 0 := by decide
  have hfooter : (footerText r).count '\n' = 0 :=
    List.count_eq_zero.mpr (lineFeed_not_mem_footerText r)
  have hrows : (r.page.messages.map (rowText now)).map (List.count '\n') =
      r.page.messages.map shownBreaks := by
    rw [List.map_map]
    exact List.map_congr_left fun m _ => count_rowText now m
  rw [tableLines, List.map_append, List.map_append, List.sum_append, List.sum_append, hheader,
    hrows]
  simp [hfooter]

/-- **One line for each message.** A table with messages, but without suggestions and ignored terms,
consists of the header, a line for each message in order, an empty line and the footer exactly if no
line feed is shown of a sender or a subject. It has four lines, one for each message, and one more
for each line feed that is shown; a text without line feeds shows none. -/
theorem table_lines_iff {now : Timestamp} {r : SearchResult} (hmessages : r.page.messages ≠ [])
    (hsuggestions : r.suggestions = []) (hignored : (r.query.map (·.ignored)).getD [] = []) :
    ((searchResult now r).splitOn '\n' = tableLines now r ++ [[]] ↔
      ∀ m ∈ r.page.messages, shownBreaks m = 0) ∧
    (searchResult now r).count '\n' =
      r.page.messages.length + 4 + (r.page.messages.map shownBreaks).sum ∧
    ∀ m : Message, '\n' ∉ (senderText m).toList → '\n' ∉ (subjectText m).toList →
      shownBreaks m = 0 := by
  have hlength : (tableLines now r).length = r.page.messages.length + 4 := by
    simp [tableLines, headerLines]
  rw [searchResult_eq_flatMap hmessages hsuggestions hignored]
  refine ⟨?_, ?_, fun m => shownBreaks_eq_zero⟩
  · rw [splitOn_flatMap_line_iff, sum_count_tableLines, List.sum_eq_zero_iff,
      List.forall_mem_map]
  · rw [count_flatMap_line, sum_count_tableLines, hlength]

/-- A message of a sender about a subject. -/
def messageAbout (sender subject : String) : Message where
  id := "m1"
  userId := "user-1"
  accountId := "acc-1"
  threadId := none
  subject := some subject
  fromAddress := none
  fromName := some sender
  toAddresses := []
  ccAddresses := []
  bccAddresses := []
  bodyText := none
  bodyHtml := none
  sentAt := .startOfDay ⟨2026, 1, 15, by decide⟩
  isRead := false
  isStarred := false
  isImportant := false
  folder := none
  labels := []
  attachments := []

/-- The result of a search that found one message. -/
def resultOf (m : Message) : SearchResult := ⟨⟨[m], 1⟩, 0, [], none, false⟩

/-- A carriage return does not end a line. -/
theorem table_lines_sample :
    let now : Timestamp := .startOfDay ⟨2026, 10, 16, by decide⟩
    let r := resultOf (messageAbout "Ann\r" "minutes")
    r.page.messages ≠ [] ∧ r.suggestions = [] ∧ (r.query.map (·.ignored)).getD [] = [] ∧
      (searchResult now r).splitOn '\n' = tableLines now r ++ [[]] ∧
      (searchResult now r).count '\n' = 5 := by
  intro now r
  obtain ⟨hiff, hcount, hplain⟩ := @table_lines_iff now r (by decide) rfl rfl
  have hbreaks : shownBreaks (messageAbout "Ann\r" "minutes") = 0 :=
    hplain _ (by decide) (by decide)
  refine ⟨by decide, rfl, rfl, hiff.mpr ?_, hcount.trans ?_⟩
  · intro m hm
    rw [List.mem_singleton.mp hm, hbreaks]
  · simp [r, resultOf, hbreaks]

/-- A subject with a line feed takes two lines: the second one starts with what the sender wrote. -/
theorem broken_subject :
    let now : Timestamp := .startOfDay ⟨2026, 10, 16, by decide⟩
    let r := resultOf (messageAbout "Ann" "minutes\n*     Bank")
    (searchResult now r).count '\n' = 6 ∧
      (searchResult now r).splitOn '\n' ≠ tableLines now r ++ [[]] ∧
      ((searchResult now r).splitOn '\n')[3]? =
        some ("*     Bank".toList ++ List.replicate 35 ' ' ++ "  2026-01-15".toList) := by
  decide +kernel

end MailSearch.Report
