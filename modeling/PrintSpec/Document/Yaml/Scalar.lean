import PrintSpec.Document.Value
import PrintSpec.Document.Yaml.Style
import PrintSpec.Text.Hex

/-!
# Writing scalars

The three styles of a text, with its long lines folded.  A line is folded once it has passed the
width of 80 columns, at a single space between two words, which the reader puts back; between
double quotes it can also be folded after an escape, where a backslash hides the line end.  The
continuation of a text is indented, and a line end inside single quotes is written twice, since
the reader takes a single one for a space.
-/

namespace PrintSpec.Yaml

open PrintSpec.Text

/-- The width after which lines are folded. -/
def lineWidth : Nat := 80

/-- A new line with its indentation. -/
def newLine (indent : Nat) : List Char :=
  '\n' :: List.replicate indent ' '

/-! ## Plain and single-quoted texts -/

/-- A run of characters of one sort, as folding sees a text. -/
inductive Piece where
  /-- Characters other than spaces and line ends. -/
  | word (chars : List Char)
  | spaces (count : Nat)
  | breaks (chars : List Char)
  deriving DecidableEq, Repr

/-- Puts a character in front of the runs of a text. -/
def Piece.cons (c : Char) (pieces : List Piece) : List Piece :=
  if c = ' ' then
    match pieces with
    | .spaces n :: rest => .spaces (n + 1) :: rest
    | _ => .spaces 1 :: pieces
  else if isBreak c then
    match pieces with
    | .breaks cs :: rest => .breaks (c :: cs) :: rest
    | _ => .breaks [c] :: pieces
  else
    match pieces with
    | .word cs :: rest => .word (c :: cs) :: rest
    | _ => .word [c] :: pieces

/-- The longest runs of one sort that make up a text. -/
def pieces (cs : List Char) : List Piece :=
  cs.foldr Piece.cons []

/-- Line ends inside a text.  A line feed at the start of a run is written once more. -/
def breakText (indent : Nat) (cs : List Char) : List Char :=
  (if cs.head? = some '\n' then ['\n'] else []) ++ cs ++ List.replicate indent ' '

/-- Writes the runs of a text from a column on.  `escape` says how a character of a word is
written, and `inner` whether a run has come before. -/
def foldPieces (indent : Nat) (escape : Char → List Char) (column : Nat) (inner : Bool) :
    List Piece → List Char
  | [] => []
  | .word cs :: rest =>
    let text := cs.flatMap escape
    text ++ foldPieces indent escape (column + text.length) true rest
  | .breaks cs :: rest =>
    breakText indent cs ++ foldPieces indent escape indent true rest
  | .spaces n :: rest =>
    if n = 1 ∧ lineWidth < column ∧ inner ∧ !rest.isEmpty then
      newLine indent ++ foldPieces indent escape indent true rest
    else
      List.replicate n ' ' ++ foldPieces indent escape (column + n) true rest

/-- A character between single quotes. -/
def singleQuotedChar (c : Char) : List Char :=
  if c = '\'' then ['\'', '\''] else [c]

/-- A text written plain from a column on. -/
def plainText (indent column : Nat) (cs : List Char) : List Char :=
  foldPieces indent (fun c => [c]) column false (pieces cs)

/-- A text between single quotes, the first of which stands at a column. -/
def singleQuotedText (indent column : Nat) (cs : List Char) : List Char :=
  '\'' :: foldPieces indent singleQuotedChar (column + 1) false (pieces cs) ++ ['\'']

/-! ## Double-quoted texts -/

/-- The characters with an escape of one letter. -/
def letterEscapes : List (Char × Char) :=
  [('\x00', '0'), ('\x07', 'a'), ('\x08', 'b'), ('\t', 't'), ('\n', 'n'), ('\x0b', 'v'),
   ('\x0c', 'f'), ('\r', 'r'), ('\x1b', 'e'), ('"', '"'), ('\\', '\\'), ('\x85', 'N'),
   ('\u00a0', '_'), ('\u2028', 'L'), ('\u2029', 'P')]

/-- Whether a character is escaped between double quotes. -/
def isEscaped (c : Char) : Bool :=
  let n := c.toNat
  ['"', '\\', '\x85', '\u2028', '\u2029', '\ufeff'].contains c ||
    !((0x20 ≤ n && n ≤ 0x7E) || (0xA0 ≤ n && n ≤ 0xD7FF) || (0xE000 ≤ n && n ≤ 0xFFFD))

/-- The escape of a code point: the shortest of the three widths. -/
def codeEscape (n : Nat) : List Char :=
  if n ≤ 0xFF then '\\' :: 'x' :: hexUpper 2 n
  else if n ≤ 0xFFFF then '\\' :: 'u' :: hexUpper 4 n
  else '\\' :: 'U' :: hexUpper 8 n

/-- The escape of a character. -/
def escapeText (c : Char) : List Char :=
  match letterEscapes.find? fun e => e.1 == c with
  | some e => ['\\', e.2]
  | none => codeEscape c.toNat

/-- What stands for one code point between double quotes. -/
inductive Mark where
  | bare (c : Char)
  | escape (text : List Char)
  deriving DecidableEq, Repr

/-- How a character is written. -/
def Mark.ofChar (c : Char) : Mark :=
  if isEscaped c then .escape (escapeText c) else .bare c

/-- How a code point is written; half of a character is always escaped. -/
def Mark.ofCode (n : Nat) : Mark :=
  if n.isValidChar then .ofChar (Char.ofNat n) else .escape (codeEscape n)

/-- The marks between double quotes, folded where `folds` allows.  `column` is where the next mark
goes, `afterEscape` says whether the last one was an escape, and `inner` whether there was one. -/
def doubleQuotedMarks (indent : Nat) (folds : Bool) (column : Nat) (afterEscape inner : Bool) :
    List Mark → List Char
  | [] => []
  | .escape text :: rest =>
    if folds && inner && !rest.isEmpty && lineWidth + 1 < column + text.length then
      let guard := if rest.head? = some (.bare ' ') then ['\\'] else []
      text ++ '\\' :: newLine indent ++ guard ++
        doubleQuotedMarks indent folds (indent + guard.length) true true rest
    else
      text ++ doubleQuotedMarks indent folds (column + text.length) true true rest
  | .bare c :: rest =>
    if folds && inner && !rest.isEmpty && (c == ' ' || afterEscape) && lineWidth < column then
      let guard := if c = ' ' then ['\\'] else []
      '\\' :: newLine indent ++ guard ++
        c :: doubleQuotedMarks indent folds (indent + guard.length + 1) false true rest
    else
      c :: doubleQuotedMarks indent folds (column + 1) false true rest

/-- A text between double quotes, the first of which stands at a column. -/
def doubleQuotedText (indent : Nat) (folds : Bool) (column : Nat) (marks : List Mark) :
    List Char :=
  '"' :: doubleQuotedMarks indent folds (column + 1) false false marks ++ ['"']

/-! ## Scalars -/

/-- A text in a style, from a column on. -/
def textIn (style : Style) (indent column : Nat) (cs : List Char) : List Char :=
  match style with
  | .plain => plainText indent column cs
  | .singleQuoted => singleQuotedText indent column cs
  | .doubleQuoted => doubleQuotedText indent true column (cs.map Mark.ofChar)

/-- A number of double precision.  An exponent stands behind a fraction only, so one of zero is
put before it. -/
def doubleText (d : Double) : List Char :=
  let text := d.text ".nan" ".inf"
  if text.contains '.' then text
  else text.takeWhile (· != 'e') ++ '.' :: '0' :: text.dropWhile (· != 'e')

/-- A scalar that is a value, from a column on. -/
def scalarText (indent column : Nat) : Scalar → List Char
  | .null => "null".toList
  | .bool true => "true".toList
  | .bool false => "false".toList
  | .int n => (toString n).toList
  | .double d => doubleText d
  | .str s => textIn (Style.ofText s) indent column s.toList
  | .torn codes => doubleQuotedText indent true column (codes.map Mark.ofCode)

/-- A scalar that is a key, on one line. -/
def keyText : Scalar → List Char
  | .str s =>
    match Style.ofKey s with
    | .plain => s.toList
    | .singleQuoted => '\'' :: s.toList.flatMap singleQuotedChar ++ ['\'']
    | .doubleQuoted => doubleQuotedText 0 false 0 (s.toList.map Mark.ofChar)
  | .torn codes => doubleQuotedText 0 false 0 (codes.map Mark.ofCode)
  | other => scalarText 0 0 other

end PrintSpec.Yaml
