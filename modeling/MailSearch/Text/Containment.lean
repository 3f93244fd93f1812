/-!
# Texts within texts

`occursIn needle hay` decides whether the needle stands in the hay as one piece; `occursIn_iff`
says so through `List`'s relation "is an infix of".
-/

namespace MailSearch.Text

/-- Whether the needle is a contiguous part of the hay. -/
def occursIn (needle : List Char) : List Char → Bool
  | [] => needle.isEmpty
  | c :: cs => needle.isPrefixOf (c :: cs) || occursIn needle cs

theorem occursIn_iff (needle hay : List Char) : occursIn needle hay = true ↔ needle <:+: hay := by
  induction hay with
  | nil => simp [occursIn]
  | cons c cs ih =>
    simp only [occursIn, Bool.or_eq_true, List.isPrefixOf_iff_prefix, ih, List.infix_cons_iff]

end MailSearch.Text
