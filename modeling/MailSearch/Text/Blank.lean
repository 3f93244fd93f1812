/-!
# Blank characters

`isBlank` is the Unicode property `White_Space`. Queries are cut into tokens at blanks, and texts
given by a caller are trimmed of them.
-/

namespace MailSearch.Text

/-- The property `White_Space`: the 25 characters that separate words. -/
def isBlank (c : Char) : Bool :=
  let n := c.toNat
  (9 ≤ n && n ≤ 13) || n == 0x20 || n == 0x85 || n == 0xA0 || n == 0x1680 ||
  (0x2000 ≤ n && n ≤ 0x200A) || n == 0x2028 || n == 0x2029 || n == 0x202F || n == 0x205F ||
  n == 0x3000

/-- The text without the blanks it starts with. -/
def trimLeft (cs : List Char) : List Char := cs.dropWhile isBlank

/-- The text without the blanks at either end. -/
def trim (cs : List Char) : List Char :=
  (trimLeft (trimLeft cs).reverse).reverse

/-- `trim` on strings. -/
def trimString (s : String) : String := String.ofList (trim s.toList)

theorem trimLeft_length_le (cs : List Char) : (trimLeft cs).length ≤ cs.length :=
  (List.dropWhile_sublist isBlank).length_le

theorem trimLeft_cons {c : Char} (h : isBlank c = false) (cs : List Char) :
    trimLeft (c :: cs) = c :: cs :=
  List.dropWhile_cons_of_neg (by simp [h])

/-- Blanks in front make no difference. -/
theorem trimLeft_append {gap : List Char} (h : ∀ c ∈ gap, isBlank c = true) (cs : List Char) :
    trimLeft (gap ++ cs) = trimLeft cs :=
  List.dropWhile_append_of_pos h

/-- What is left after trimming on the left does not start with a blank. -/
theorem trimLeft_head_not_blank {cs rest : List Char} {c : Char} (h : trimLeft cs = c :: rest) :
    isBlank c = false := by
  induction cs with
  | nil => simp [trimLeft] at h
  | cons d ds ih =>
    by_cases hd : isBlank d
    · exact ih (by simpa [trimLeft, List.dropWhile_cons, hd] using h)
    · have h' : d :: ds = c :: rest := by simpa [trimLeft, List.dropWhile_cons, hd] using h
      simp_all

end MailSearch.Text
