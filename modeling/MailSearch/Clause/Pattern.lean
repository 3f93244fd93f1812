/-!
# Patterns

The `LIKE` patterns of SQL with a backslash for escapes: `%` stands for any text and `_` for any
character. `likePattern` is the pattern of the texts that contain a needle, and `like` decides
whether a text has the form of a pattern. ASCII letters match in either case. Patterns and texts end
at a NUL character (`beforeNul`), and what stands behind it counts for nothing.

`hasForm_anyText`, `hasForm_plain_cons` and `hasForm_plain_nil` are the steps that `hasForm` takes
at a `%` and at a character that stands for itself.
-/

namespace MailSearch

/-- Whether the character means something in a pattern. -/
def isWildcard (c : Char) : Bool := c = '%' || c = '_' || c = '\\'

/-- A text as a pattern that only the text itself has the form of. -/
def escapePattern : List Char → List Char
  | [] => []
  | c :: cs => if isWildcard c then '\\' :: c :: escapePattern cs else c :: escapePattern cs

/-- The pattern of the texts that contain a needle. -/
def likePattern (needle : List Char) : List Char := '%' :: (escapePattern needle ++ ['%'])

/-- A character as patterns see it: the two noncharacters at the end of the first plane read as the
replacement character. -/
def patternChar (c : Char) : Char :=
  if c.toNat = 0xFFFE ∨ c.toNat = 0xFFFF then '\ufffd' else c.toLower

/-- Whether a character of a pattern and one of a text match. -/
def sameChar (a b : Char) : Bool := patternChar a = patternChar b

/-- Whether a text has the form of a pattern, neither with a NUL character. -/
def hasForm : (pattern text : List Char) → Bool
  | [], text => text.isEmpty
  | '%' :: pattern, [] => hasForm pattern []
  | '%' :: pattern, c :: text => hasForm pattern (c :: text) || hasForm ('%' :: pattern) text
  | '_' :: pattern, _ :: text => hasForm pattern text
  | '_' :: _, [] => false
  | '\\' :: p :: pattern, c :: text => sameChar p c && hasForm pattern text
  | ['\\'], _ => false
  | p :: pattern, c :: text => sameChar p c && hasForm pattern text
  | _ :: _, [] => false
termination_by pattern text => pattern.length + text.length

/-- The part of a text before its first NUL character. -/
def beforeNul (cs : List Char) : List Char := cs.takeWhile (· ≠ '\u0000')

/-- Whether a text has the form of a pattern, both up to where they end. -/
def like (pattern text : List Char) : Bool := hasForm (beforeNul pattern) (beforeNul text)

theorem hasForm_anyText (text : List Char) : hasForm ['%'] text = true := by
  induction text with
  | nil => simp [hasForm]
  | cons c cs ih => simp [hasForm, ih]

theorem hasForm_plain_cons {p : Char} (h : isWildcard p = false) (pattern : List Char) (c : Char)
    (cs : List Char) : hasForm (p :: pattern) (c :: cs) = (sameChar p c && hasForm pattern cs) := by
  simp only [isWildcard, Bool.or_eq_false_iff, decide_eq_false_iff_not] at h
  rw [hasForm]
  · rintro rfl
    exact h.1.1 rfl
  · rintro rfl
    exact h.1.2 rfl
  · rintro q rest rfl
    exact absurd rfl h.2
  · rintro rfl
    exact absurd rfl h.2

theorem hasForm_plain_nil {p : Char} (h : isWildcard p = false) (pattern : List Char) :
    hasForm (p :: pattern) [] = false := by
  simp only [isWildcard, Bool.or_eq_false_iff, decide_eq_false_iff_not] at h
  rw [hasForm]
  · rintro rfl
    exact h.1.1 rfl
  · rintro rfl
    exact h.1.2 rfl
  · rintro rfl
    exact absurd rfl h.2

end MailSearch
