import PrintSpec.Document.Yaml.Tag

/-!
# Styles of a text

A text is written plain where that is possible, else between single quotes, else between double
quotes.  Plain text must not be taken for anything else: it stands for itself only if no pattern
of `Tag` matches it, no indicator begins it or stands inside it, and it neither begins nor ends
with white space.  Single quotes take every text whose line ends touch no space and whose
characters can be shown; double quotes take all texts.
-/

namespace PrintSpec.Yaml

/-- The characters that end a line inside a text. -/
def isBreak (c : Char) : Bool :=
  ['\n', '\x85', '\u2028', '\u2029'].contains c

/-- The characters that separate words: spaces, tabs and line ends. -/
def isWhite (c : Char) : Bool :=
  ['\x00', ' ', '\t', '\r', '\n', '\x85', '\u2028', '\u2029'].contains c

/-- Whether a text is at its end or goes on with white space. -/
def endsWord : List Char → Bool
  | [] => true
  | c :: _ => isWhite c

/-- How a text is written. -/
inductive Style where
  | plain
  | singleQuoted
  | doubleQuoted
  deriving DecidableEq, Repr

namespace Style

/-- Whether a text begins like a line that separates documents. -/
def startsLikeSeparator (cs : List Char) : Bool :=
  cs.take 3 == ['-', '-', '-'] || cs.take 3 == ['.', '.', '.']

/-- Whether a text begins with a character that would start something else. -/
def startsWithIndicator : List Char → Bool
  | [] => false
  | c :: rest =>
    ['#', ',', '[', ']', '{', '}', '&', '*', '!', '|', '>', '\'', '"', '%', '@', '\x60'].contains c
      || (['?', ':', '-'].contains c && endsWord rest)

/-- Whether a text that follows the character `before` holds a colon at the end of a word or a
hash at the start of one. -/
def holdsIndicator (before : Char) : List Char → Bool
  | [] => false
  | c :: rest =>
    (c == ':' && endsWord rest) || (c == '#' && isWhite before) || holdsIndicator c rest

/-- Whether some indicator keeps a text from being plain. -/
def hasIndicator (cs : List Char) : Bool :=
  startsLikeSeparator cs || startsWithIndicator cs ||
    match cs with
    | [] => false
    | c :: rest => holdsIndicator c rest

/-- Whether a character can be shown as it is. -/
def isShowable (c : Char) : Bool :=
  let n := c.toNat
  c == '\n' || (0x20 ≤ n && n ≤ 0x7E) || n == 0x85 || (0xA0 ≤ n && n ≤ 0xD7FF) ||
    (0xE000 ≤ n && n ≤ 0xFFFD && n != 0xFEFF) || (0x10000 ≤ n && n < 0x10FFFF)

/-- Whether a text has a space next to a line end. -/
def spaceMeetsBreak : List Char → Bool
  | a :: b :: rest =>
    (a == ' ' && isBreak b) || (isBreak a && b == ' ') || spaceMeetsBreak (b :: rest)
  | _ => false

/-- Whether a text begins or ends with a space or a line end. -/
def hasOuterSpace (cs : List Char) : Bool :=
  let outer : Option Char → Bool := fun c => c.any fun c => c == ' ' || isBreak c
  outer cs.head? || outer cs.getLast?

/-- Whether a text may be written plain, as far as its characters go. -/
def allowsPlain (cs : List Char) : Bool :=
  cs.all isShowable && !cs.any isBreak && !hasOuterSpace cs && !hasIndicator cs

/-- Whether a text may be written between single quotes. -/
def allowsSingle (cs : List Char) : Bool :=
  cs.all isShowable && !spaceMeetsBreak cs

/-- The style of a text that is a value. -/
def ofText (text : String) : Style :=
  if Tag.ofPlain text = .str && allowsPlain text.toList then .plain
  else if allowsSingle text.toList then .singleQuoted
  else .doubleQuoted

/-- The style of a text that is a key, which has to stay on one line. -/
def ofKey (text : String) : Style :=
  match ofText text with
  | .singleQuoted => if text.toList.any isBreak then .doubleQuoted else .singleQuoted
  | style => style

end Style

end PrintSpec.Yaml
