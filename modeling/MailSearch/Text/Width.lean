import MailSearch.Text.WidthTable
import MailSearch.Text.Digits

/-!
# Display width

How many columns of a terminal a text takes. A character has a width of its own (`charWidth`), and
neighbours can join: emoji sequences are drawn as one picture, and some scripts have ligatures. A
text is measured from its end (`textWidth`), because what a character adds depends on what stands
to its right. `Shape` says what that is, and `Right` adds the joiner or the selector between.
-/

namespace MailSearch.Text

/-- What stands to the right of a character, as far as it matters for joining. -/
inductive Shape where
  /-- Nothing that joins to the left. -/
  | plain
  | lineFeed
  | skinTone
  /-- One regional indicator, or several in a row. -/
  | indicator
  | indicators
  /-- A picture. -/
  | emoji
  /-- A joiner with a picture after it, alone or with a part of one more picture before it. -/
  | joinedEmoji
  | joinedKeycap
  | joinedIndicator
  | joinedEven
  | joinedOdd
  /-- A cancel tag and the given number of tag letters, or of tag digits. -/
  | tagLetters (count : Nat)
  | tagDigits (count : Nat)
  | alef
  | lamed
  | bugineseYa
  | bugineseVowel
  | tifinagh
  | tifinaghJoiner
  | lisuTone
  | orkhonI
  | khmerLetter
  deriving DecidableEq, Repr

/-- The variation selectors: draw as text, or as a picture. -/
inductive Selector where
  | text
  | picture
  deriving DecidableEq, Repr

/-- What stands to the right: a shape, whether a joiner stands before it, and a selector that
stands before both. -/
structure Right where
  shape : Shape
  joiner : Bool
  selector : Option Selector
  deriving DecidableEq, Repr

/-- A shape with nothing before it. -/
def Shape.alone (shape : Shape) : Right := ⟨shape, false, none⟩

/-- Whether the shape takes part in a ligature, which joiners and selectors do not break. -/
def Shape.isLigature : Shape → Bool
  | .alef | .lamed | .bugineseYa | .bugineseVowel | .tifinagh | .tifinaghJoiner
  | .lisuTone | .orkhonI | .khmerLetter => true
  | _ => false

/-- Whether a picture selector before the shape keeps the shape in view. -/
def Shape.keepsPicture : Shape → Bool
  | .joinedEmoji | .joinedKeycap => true
  | shape => shape.isLigature

/-- A picture selector before what stands to the right. -/
def Right.withPicture (right : Right) : Right :=
  if right.shape.keepsPicture then { right with selector := some .picture }
  else ⟨.plain, false, some .picture⟩

/-- A text selector before what stands to the right. -/
def Right.withText (right : Right) : Right :=
  if right.shape.isLigature then { right with selector := some .text }
  else ⟨.plain, false, some .text⟩

/-- What stands to the right once its selector found nothing to select. -/
def Right.dropSelector (right : Right) : Right :=
  match right.selector with
  | none => right
  | some _ =>
    if right.shape.isLigature then { right with selector := none } else Shape.plain.alone

/-- Whether the code point lies between two others. -/
def within (first last : Nat) (code : Nat) : Bool := first ≤ code && code ≤ last

/-- Regional indicators, which spell flags. -/
def isIndicator (code : Nat) : Bool := within 0x1F1E6 0x1F1FF code

/-- The five skin tones. -/
def isSkinTone (code : Nat) : Bool := within 0x1F3FB 0x1F3FF code

/-- Characters that have both a text form and a picture form. -/
def hasPictureForm (code : Nat) : Bool := variationBaseRanges.covers code

/-- Characters that a text selector turns from a picture into one column of text. -/
def hasNarrowText (code : Nat) : Bool :=
  hasPictureForm code && emojiRanges.covers code && !within 0x1F200 0x1F2FF code

/-- Arabic letters of the shape of alef. -/
def isAlef (code : Nat) : Bool :=
  code == 0x622 || code == 0x623 || code == 0x625 || code == 0x627 || within 0x671 0x673 code ||
  code == 0x675 || code == 0x773 || code == 0x774 || within 0x870 0x882 code

/-- Arabic letters that join with a following alef into one. -/
def isLam (code : Nat) : Bool :=
  code == 0x644 || within 0x6B5 0x6B8 code || code == 0x76A || code == 0x8A6 || code == 0x8C7

/-- Tifinagh letters that join into pairs. -/
def isTifinagh (code : Nat) : Bool := within 0x2D31 0x2D65 code || code == 0x2D6F

/-- Khmer letters that a coeng sign writes below the letter before. -/
def isKhmerLetter (code : Nat) : Bool :=
  within 0x1780 0x1782 code || within 0x1784 0x1787 code || within 0x1789 0x178C code ||
  within 0x178E 0x1793 code || within 0x1795 0x1798 code || within 0x179B 0x179D code ||
  code == 0x17A0 || code == 0x17A2 || code == 0x17A7 || within 0x17AB 0x17AC code ||
  code == 0x17AF

/-- Marks that do not break a ligature. -/
def isLigatureMark (code : Nat) : Bool :=
  code == 0x34F || within 0x17B4 0x17B5 code || within 0x180B 0x180D code || code == 0x180F ||
  code == 0x200D || within 0xFE00 0xFE0F code || within 0xE0100 0xE01EF code

/-- The width of a code point beyond U+00A0 taken alone. -/
def codeWidth (code : Nat) : Nat :=
  if code = 0x17D8 then 3
  else if zeroWidthRanges.covers code then 0
  else if wideRanges.covers code then 2
  else 1

/-- The shape of a code point beyond U+00A0 for what stands to its left. -/
def codeShape (code : Nat) : Right :=
  if code = 0xFE0F then ⟨.plain, false, some .picture⟩
  else if code = 0xFE0E then ⟨.plain, false, some .text⟩
  else if isIndicator code then Shape.indicator.alone
  else if isSkinTone code then Shape.skinTone.alone
  else if emojiRanges.covers code then Shape.emoji.alone
  else if isAlef code then Shape.alef.alone
  else if code = 0x5DC then Shape.lamed.alone
  else if code = 0x1A10 then Shape.bugineseYa.alone
  else if isTifinagh code then Shape.tifinagh.alone
  else if within 0xA4FC 0xA4FD code then Shape.lisuTone.alone
  else if code = 0x10C03 then Shape.orkhonI.alone
  else if isKhmerLetter code then Shape.khmerLetter.alone
  else Shape.plain.alone

/-- The columns of a character taken alone; control characters have none. -/
def charWidth (c : Char) : Nat :=
  let n := c.toNat
  if n < 0x20 || (0x7F ≤ n && n < 0xA0) then 0
  else if n ≤ 0xA0 then 1
  else codeWidth n

/-- The joins between a code point beyond U+00A0 and what stands to its right: the columns it adds
and what it shows to its left. -/
def join? (right : Right) (code : Nat) : Option (Int × Right) :=
  match right.shape, right.joiner with
  | .alef, _ =>
    if isLam code then some (0, Shape.plain.alone)
    else if codeWidth code = 0 && !opaqueZeroWidthRanges.covers code then
      some (0, Shape.alef.alone)
    else none
  | .lamed, true => if code = 0x5D0 then some (0, Shape.plain.alone) else none
  | .khmerLetter, _ => if code = 0x17D2 then some (-1, Shape.plain.alone) else none
  | .bugineseYa, true => if code = 0x1A17 then some (0, Shape.bugineseVowel.alone) else none
  | .bugineseVowel, _ => if code = 0x1A15 then some (0, Shape.plain.alone) else none
  | .tifinagh, joiner =>
    if code = 0x2D7F then some (1, Shape.tifinaghJoiner.alone)
    else if joiner && isTifinagh code then some (0, Shape.plain.alone)
    else none
  | .tifinaghJoiner, _ => if isTifinagh code then some (-1, Shape.plain.alone) else none
  | .lisuTone, _ => if within 0xA4F8 0xA4FB code then some (0, Shape.plain.alone) else none
  | .orkhonI, true => if code = 0x10C32 then some (0, Shape.plain.alone) else none
  | .skinTone, _ =>
    if emojiModifierBaseRanges.covers code then some (0, Shape.emoji.alone)
    else if code = 0x200D then some (0, Shape.joinedEmoji.alone)
    else none
  | .indicator, _ => if isIndicator code then some (1, Shape.indicators.alone) else none
  | .indicators, _ =>
    if isIndicator code then some (1, Shape.indicators.alone)
    else if code = 0x200D then some (0, Shape.joinedEmoji.alone)
    else none
  | .emoji, _ => if code = 0x200D then some (0, Shape.joinedEmoji.alone) else none
  | .joinedEmoji, _ =>
    if code = 0x20E3 then some (0, Shape.joinedKeycap.alone)
    else if isIndicator code then some (1, Shape.joinedIndicator.alone)
    else if isSkinTone code then some (0, Shape.skinTone.alone)
    else if code = 0xE007F then some (0, (Shape.tagLetters 0).alone)
    else if emojiRanges.covers code then some (0, Shape.emoji.alone)
    else none
  | .joinedIndicator, _ => if isIndicator code then some (-1, Shape.joinedEven.alone) else none
  | .joinedEven, _ =>
    if isIndicator code then some (3, Shape.joinedOdd.alone)
    else if code = 0x200D then some (0, Shape.joinedEmoji.alone)
    else none
  | .joinedOdd, _ =>
    if isIndicator code then some (-1, Shape.joinedEven.alone)
    else if code = 0x200D then some (0, Shape.joinedEmoji.alone)
    else none
  | .tagLetters count, _ =>
    if within 0xE0061 0xE007A code && count < 6 then
      some (0, (Shape.tagLetters (count + 1)).alone)
    else if within 0xE0030 0xE0039 code && count < 5 then some (0, (Shape.tagDigits 1).alone)
    else if code = 0x1F3F4 && 3 ≤ count then some (0, Shape.emoji.alone)
    else none
  | .tagDigits count, _ =>
    if within 0xE0030 0xE0039 code && count < 3 then
      some (0, (Shape.tagDigits (count + 1)).alone)
    else if code = 0x1F3F4 && count = 3 then some (0, Shape.emoji.alone)
    else none
  | _, _ => none

/-- The columns a code point beyond U+00A0 adds before what stands to its right, and what it shows
to its left. -/
def stepWide (right : Right) (code : Nat) : Int × Right :=
  if code = 0xFE0F then (0, right.withPicture)
  else if code = 0xFE0E then (0, right.withText)
  else if right.selector = some .text && hasNarrowText code then (1, Shape.plain.alone)
  else
    let right := right.dropSelector
    if right.shape.isLigature && code = 0x200D then (0, { right with joiner := true })
    else if right.shape.isLigature && isLigatureMark code then (0, right)
    else (join? right code).getD (codeWidth code, codeShape code)

/-- The columns a character adds before what stands to its right, and what it shows to its left.
A line feed takes none, and neither does a carriage return before one. -/
def step (right : Right) (c : Char) : Int × Right :=
  let code := c.toNat
  if right.selector = some .picture && hasPictureForm code then
    (if right.shape = .joinedEmoji || right.shape = .joinedKeycap then 0 else 2, Shape.emoji.alone)
  else
    let right := if right.selector = some .picture then right.dropSelector else right
    if code ≤ 0xA0 then
      if c = '\n' then (0, Shape.lineFeed.alone)
      else if c = '\r' && right.shape = .lineFeed then (0, Shape.plain.alone)
      else (1, Shape.plain.alone)
    else stepWide right code

/-- The columns of a text and what its first character shows to the left. -/
def measure : List Char → Int × Right
  | [] => (0, Shape.plain.alone)
  | c :: cs =>
    let (width, right) := measure cs
    let (added, shape) := step right c
    (width + added, shape)

/-- The columns that a text takes on a line. -/
def textWidth (cs : List Char) : Nat := (measure cs).1.toNat

/-- The text filled up with spaces on the right to a number of columns. -/
def padRight (width : Nat) (cs : List Char) : List Char :=
  cs ++ List.replicate (width - textWidth cs) ' '

/-- The longest start of a text that leaves one column of the limit free, after the columns used. -/
def takeColumns (limit : Nat) (used : Nat) : List Char → List Char
  | [] => []
  | c :: cs =>
    if used + charWidth c + 1 > limit then [] else c :: takeColumns limit (used + charWidth c) cs

/-- The text if it fits into the columns, else a start of it followed by an ellipsis. -/
def truncate (limit : Nat) (cs : List Char) : List Char :=
  if textWidth cs ≤ limit then cs
  else if limit ≤ 1 then ['…']
  else takeColumns limit 0 cs ++ ['…']

end MailSearch.Text
