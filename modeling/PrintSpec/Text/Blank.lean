import PrintSpec.Text.CodeRange

/-!
# Blanks

The white space that surrounds a value and does not belong to it: the ASCII blanks and
separators, the next-line control, and every space, line and paragraph separator.  The
zero-width space and the byte-order mark are not blanks.
-/

namespace PrintSpec.Text

/-- The code points of all blanks. -/
def blankRanges : List CodeRange :=
  [(0x9, 0xD), (0x1C, 0x20), (0x85, 0x85), (0xA0, 0xA0), (0x1680, 0x1680), (0x2000, 0x200A),
   (0x2028, 0x2029), (0x202F, 0x202F), (0x205F, 0x205F), (0x3000, 0x3000)]

/-- Whether a character is a blank. -/
def isBlank (c : Char) : Bool :=
  inRanges blankRanges c

/-- A list of characters without the members of a class at its end. -/
def dropEndWhile (p : Char → Bool) (cs : List Char) : List Char :=
  (cs.reverse.dropWhile p).reverse

/-- A text without the blanks at its end. -/
def trimEnd (s : String) : String :=
  String.ofList (dropEndWhile isBlank s.toList)

/-- A text without the blanks at either end. -/
def trim (s : String) : String :=
  String.ofList (dropEndWhile isBlank (s.toList.dropWhile isBlank))

end PrintSpec.Text
