import PrintSpec.Text.Hex
import PrintSpec.Text.Printable

/-!
# Text between quotes

How a message shows a text so that its ends and its special characters are visible.  Single
quotes enclose it, or double quotes when it holds a single quote and no double quote.  A
backslash, the enclosing quote, line ends and tabs are escaped by a backslash, and a character
that is not printable is written by its code point.
-/

namespace PrintSpec.Text

/-- The escape of a character that is not printable: the shortest of the three widths. -/
def codePointEscape (c : Char) : List Char :=
  let n := c.toNat
  if n ≤ 0xFF then '\\' :: 'x' :: hexLower 2 n
  else if n ≤ 0xFFFF then '\\' :: 'u' :: hexLower 4 n
  else '\\' :: 'U' :: hexLower 8 n

/-- One character of a text enclosed in `quote`. -/
def quotedChar (quote c : Char) : List Char :=
  if c = quote ∨ c = '\\' then ['\\', c]
  else if c = '\n' then ['\\', 'n']
  else if c = '\r' then ['\\', 'r']
  else if c = '\t' then ['\\', 't']
  else if isPrintable c then [c]
  else codePointEscape c

/-- The quote that encloses a text: the double one only where it saves escapes. -/
def enclosingQuote (s : String) : Char :=
  if s.toList.contains '\'' && !s.toList.contains '"' then '"' else '\''

/-- A text shown between quotes. -/
def quoted (s : String) : String :=
  let quote := enclosingQuote s
  String.ofList (quote :: s.toList.flatMap (quotedChar quote) ++ [quote])

/-- One code point of a text enclosed in `quote`; half of a character is written by its code. -/
def quotedCode (quote : Char) (n : Nat) : List Char :=
  if n.isValidChar then quotedChar quote (Char.ofNat n) else '\\' :: 'u' :: hexLower 4 n

/-- Code points, among them halves of characters, shown between quotes. -/
def quotedCodes (codes : List Nat) : String :=
  let quote := enclosingQuote (String.ofList (codes.map Char.ofNat))
  String.ofList (quote :: codes.flatMap (quotedCode quote) ++ [quote])

end PrintSpec.Text
