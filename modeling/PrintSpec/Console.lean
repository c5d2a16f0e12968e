import PrintSpec.Text.Width

/-!
# Console text

Text is put on a console line by line.  Five control characters that would move the cursor are
dropped, and a tab becomes one space and then as many more as reach a multiple of eight columns.
-/

namespace PrintSpec.Console

open PrintSpec.Text

/-- Whether the console drops a character: bell, backspace, vertical tab, form feed and carriage
return. -/
def isDropped (c : Char) : Bool :=
  ['\x07', '\x08', '\x0b', '\x0c', '\r'].contains c

/-- The distance between tab stops. -/
def tabSize : Nat := 8

/-- How far the first tab stop at or after a column is. -/
def toStop (column : Nat) : Nat :=
  (tabSize - column % tabSize) % tabSize

/-- Replaces the tabs of a text.  `column` is the column at which the current part of a line
began, and `part` holds its characters since then, last one first.  The space that stands for a
tab is measured together with the part before it. -/
def expandFrom (column : Nat) (part : List Char) : List Char → List Char
  | [] => part.reverse
  | c :: cs =>
    if c = '\n' then part.reverse ++ '\n' :: expandFrom 0 [] cs
    else if c = '\t' then
      let spaced := (' ' :: part).reverse
      let here := column + width spaced
      spaced ++ List.replicate (toStop here) ' ' ++ expandFrom (here + toStop here) [] cs
    else expandFrom column (c :: part) cs

/-- A text as the console shows it, without the line end that may follow it. -/
def shown (text : String) : String :=
  String.ofList (expandFrom 0 [] (text.toList.filter fun c => !isDropped c))

/-- A text as the console shows it, with a line end. -/
def line (text : String) : String :=
  shown text ++ "\n"

end PrintSpec.Console
