/-!
# Text as an awk string

A text becomes an awk string literal that denotes it.  Backslash, double quote, line feed and
carriage return are written with a backslash; every other character stands for itself.
-/

namespace PrintSpec.Awk

/-- One character inside an awk string literal. -/
def escapeChar (c : Char) : List Char :=
  if c = '\\' then ['\\', '\\']
  else if c = '"' then ['\\', '"']
  else if c = '\n' then ['\\', 'n']
  else if c = '\r' then ['\\', 'r']
  else [c]

/-- The awk string literal of a text. -/
def quote (text : String) : String :=
  String.ofList ('"' :: text.toList.flatMap escapeChar ++ ['"'])

/-- One code point inside an awk string literal; half of a character stands for itself. -/
def escapeCode (n : Nat) : List Nat :=
  if n.isValidChar then (escapeChar (Char.ofNat n)).map Char.toNat else [n]

/-- The awk string literal of a text that is given by its code points. -/
def quoteCodes (codes : List Nat) : List Nat :=
  '"'.toNat :: codes.flatMap escapeCode ++ ['"'.toNat]

end PrintSpec.Awk
