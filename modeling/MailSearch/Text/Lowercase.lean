import MailSearch.Text.CaseTable
import MailSearch.Text.Containment

/-!
# Lower case

`lowercase` is full Unicode lower-casing of a text. Almost every character has a lower-case form of
its own (`lowerChar`); two depend on more:

* `İ` becomes two characters, `i` and a dot above;
* `Σ` becomes `ς` at the end of a word and `σ` elsewhere. It ends a word when a cased letter comes
  before it and none after, looking past characters that casing ignores (`endsWord`).

Comparisons that ignore case compare folded texts (`fold`).
-/

namespace MailSearch.Text

/-- Whether the character is a letter with a case. -/
def isCased (c : Char) : Bool :=
  if c.toNat < 0x80 then c.isAlpha else casedRanges.covers c.toNat

/-- Whether casing looks past the character. -/
def isCaseIgnorable (c : Char) : Bool := caseIgnorableRanges.covers c.toNat

/-- The lower-case form of a character taken alone. -/
def lowerChar (c : Char) : Char :=
  if c.toNat < 0x80 then c.toLower
  else ((lowerRuns.findSome? (·.lower? c.toNat)).map Char.ofNat).getD c

/-- Whether the first character that counts for casing is a cased letter. -/
def startsCased : List Char → Bool
  | [] => false
  | c :: cs => if isCaseIgnorable c then startsCased cs else isCased c

/-- Whether a sigma between such neighbours ends its word. -/
def endsWord (afterCased : Bool) (rest : List Char) : Bool := afterCased && !startsCased rest

/-- The lower-case form of a character between its neighbours. -/
def lowerForm (afterCased : Bool) (c : Char) (rest : List Char) : List Char :=
  if c = 'Σ' then [if endsWord afterCased rest then 'ς' else 'σ']
  else if c = 'İ' then ['i', '\u0307']
  else [lowerChar c]

/-- Lower case of the rest of a text; `afterCased` says whether the last character that counts for
casing was a cased letter. -/
def lowerFrom (afterCased : Bool) : List Char → List Char
  | [] => []
  | c :: cs =>
    lowerForm afterCased c cs ++
      lowerFrom (if isCaseIgnorable c then afterCased else isCased c) cs

/-- Full Unicode lower case. -/
def lowercase (cs : List Char) : List Char := lowerFrom false cs

/-- The form under which texts are compared when case does not count. -/
def fold (s : String) : String := String.ofList (lowercase s.toList)

/-- Whether the folded needle stands in the folded hay. -/
def containsFolded (hay needle : String) : Bool :=
  occursIn (lowercase needle.toList) (lowercase hay.toList)

/-- ASCII lower case; other characters stay. -/
def asciiLower (s : String) : String := String.ofList (s.toList.map Char.toLower)

theorem fold_toList (s : String) : (fold s).toList = lowercase s.toList := by
  simp [fold]

theorem containsFolded_iff (hay needle : String) :
    containsFolded hay needle = true ↔ (fold needle).toList <:+: (fold hay).toList := by
  simp [containsFolded, fold_toList, occursIn_iff]

end MailSearch.Text
