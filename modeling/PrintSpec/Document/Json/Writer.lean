import PrintSpec.Document.Value
import PrintSpec.Text.Hex

/-!
# Writing JSON

Documents are written over several lines, indented by two, in ASCII: a character outside of it is
written as an escape, and one beyond the basic plane as two escapes.
-/

namespace PrintSpec.Json

open PrintSpec.Text

/-- The escape of one unit of sixteen bits. -/
def unitEscape (n : Nat) : List Char :=
  '\\' :: 'u' :: hexLower 4 n

/-- One character of a text. -/
def charText (c : Char) : List Char :=
  if c = '"' then ['\\', '"']
  else if c = '\\' then ['\\', '\\']
  else if c = '\n' then ['\\', 'n']
  else if c = '\r' then ['\\', 'r']
  else if c = '\t' then ['\\', 't']
  else if c = '\x08' then ['\\', 'b']
  else if c = '\x0c' then ['\\', 'f']
  else if 0x20 ≤ c.toNat ∧ c.toNat ≤ 0x7E then [c]
  else if c.toNat ≤ 0xFFFF then unitEscape c.toNat
  else unitEscape (halves c.toNat).1 ++ unitEscape (halves c.toNat).2

/-- A text. -/
def stringText (s : String) : List Char :=
  '"' :: s.toList.flatMap charText ++ ['"']

/-- One code point of a text; half of a character is written by its code. -/
def codeText (n : Nat) : List Char :=
  if n.isValidChar then charText (Char.ofNat n) else unitEscape n

/-- A text of code points. -/
def codesText (codes : List Nat) : List Char :=
  '"' :: codes.flatMap codeText ++ ['"']

/-- A scalar. -/
def scalarText : Scalar → List Char
  | .null => "null".toList
  | .bool true => "true".toList
  | .bool false => "false".toList
  | .int n => (toString n).toList
  | .double d => d.text "NaN" "Infinity"
  | .str s => stringText s
  | .torn codes => codesText codes

/-- A key, which is always a text. -/
def keyText : Scalar → List Char
  | .str s => stringText s
  | .torn codes => codesText codes
  | other => '"' :: scalarText other ++ ['"']

/-- A new line at a depth. -/
def newLine (depth : Nat) : List Char :=
  '\n' :: List.replicate (2 * depth) ' '

mutual

/-- A value at a depth. -/
def valueText (depth : Nat) : Value → List Char
  | .scalar s => scalarText s
  | .list [] => ['[', ']']
  | .map [] => ['{', '}']
  | .list (v :: vs) => '[' :: itemsText (depth + 1) (v :: vs) ++ newLine depth ++ [']']
  | .map (e :: es) => '{' :: entriesText (depth + 1) (e :: es) ++ newLine depth ++ ['}']

/-- The items of a list, each on a new line, with commas between them. -/
def itemsText (depth : Nat) : List Value → List Char
  | [] => []
  | [v] => newLine depth ++ valueText depth v
  | v :: w :: rest => newLine depth ++ valueText depth v ++ ',' :: itemsText depth (w :: rest)

/-- The entries of a mapping, each on a new line, with commas between them. -/
def entriesText (depth : Nat) : List (Scalar × Value) → List Char
  | [] => []
  | [(k, v)] => newLine depth ++ keyText k ++ ':' :: ' ' :: valueText depth v
  | (k, v) :: e :: rest =>
    newLine depth ++ keyText k ++ ':' :: ' ' :: valueText depth v ++
      ',' :: entriesText depth (e :: rest)

end

/-- A document. -/
def render (v : Value) : String :=
  String.ofList (valueText 0 v)

end PrintSpec.Json
