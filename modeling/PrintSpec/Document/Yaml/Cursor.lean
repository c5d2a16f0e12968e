import PrintSpec.Document.Yaml.Style

/-!
# Places in a text

A cursor is a place in a text that is being read: the characters still to come, with the line,
the column and the distance from the start.  Line ends are the line feed, the carriage return,
both together, the next-line control, and the line and paragraph separators.
-/

namespace PrintSpec.Yaml

/-- A place in a text. -/
structure Cursor where
  /-- The characters still to come. -/
  rest : List Char
  /-- How many characters came before. -/
  index : Nat := 0
  /-- The line, from zero. -/
  line : Nat := 0
  /-- The column, from zero. -/
  column : Nat := 0
  deriving DecidableEq, Repr

namespace Cursor

/-- The place after one character.  A carriage return ends a line unless a line feed follows, and
a byte-order mark takes no column. -/
def next (c : Cursor) : Cursor :=
  match c.rest with
  | [] => c
  | ch :: rest =>
    if isBreak ch || (ch == '\r' && rest.head? != some '\n') then
      { rest, index := c.index + 1, line := c.line + 1, column := 0 }
    else
      { rest, index := c.index + 1, line := c.line
        column := if ch = '\ufeff' then c.column else c.column + 1 }

/-- The place some characters later. -/
def skip : Nat → Cursor → Cursor
  | 0, c => c
  | n + 1, c => skip n c.next

/-- The next character, if there is one. -/
def peek (c : Cursor) : Option Char :=
  c.rest.head?

/-- What is still to come after the next character. -/
def tail (c : Cursor) : List Char :=
  c.rest.drop 1

end Cursor

/-! ## Reading line ends -/

/-- Whether a character is part of a line end. -/
def isLineEnd (c : Char) : Bool :=
  c == '\r' || isBreak c

/-- The line end at the start of a text: the character it stands for and how many it takes.  All
line ends stand for a line feed, except that the separators stand for themselves. -/
def lineEnd? : List Char → Option (Char × Nat)
  | '\r' :: '\n' :: _ => some ('\n', 2)
  | c :: _ =>
    if c = '\r' ∨ c = '\n' ∨ c = '\x85' then some ('\n', 1)
    else if isBreak c then some (c, 1)
    else none
  | [] => none

/-- Whether a text, which starts a line, starts with a mark between documents. -/
def atSeparator (cs : List Char) : Bool :=
  Style.startsLikeSeparator cs && endsWord (cs.drop 3)

/-- How many characters of a text come before the next token: spaces, line ends and comments.  The
flag says whether the text starts inside a comment. -/
def gapLength (inComment : Bool) : List Char → Nat
  | [] => 0
  | c :: cs =>
    if isLineEnd c then gapLength false cs + 1
    else if inComment || c == '#' then gapLength true cs + 1
    else if c = ' ' then gapLength false cs + 1
    else 0

/-- Whether a character may stand in a document at all. -/
def isLegal (c : Char) : Bool :=
  let n := c.toNat
  c == '\t' || c == '\n' || c == '\r' || (0x20 ≤ n && n ≤ 0x7E) || n == 0x85 ||
    (0xA0 ≤ n && n ≤ 0xD7FF) || (0xE000 ≤ n && n ≤ 0xFFFD) || 0x10000 ≤ n

end PrintSpec.Yaml
