import PrintSpec.Document.Yaml.Cursor
import PrintSpec.Text.CodePoint
import PrintSpec.Text.Hex

/-!
# Reading scalars

The text of a scalar that may go over several lines.  A single line end between two words is read
as a space, and a run of them as all but the first; a separator that ends a line is kept.  The
functions here give the text together with the place after it.  A quoted scalar is read as code
points, since its escapes may stand for halves of characters.
-/

namespace PrintSpec.Yaml

open PrintSpec.Text

/-- Why a text is not read to its end. -/
inductive Fault where
  | malformed
  /-- An escape stands for no character. -/
  | noCharacter (e : CodeError)
  deriving DecidableEq, Repr

/-- A result that has to be there in a document. -/
def orMalformed {α : Type} : Option α → Except Fault α
  | none => .error .malformed
  | some a => .ok a

/-- The meaning of a line end followed by further ones. -/
def foldedBreaks (first : Char) (more : List Char) : List Char :=
  if first ≠ '\n' then first :: more
  else if more.isEmpty then [' ']
  else more

/-! ## Quoted scalars -/

/-- The line ends at the start of a text, with the white space between them, and how many
characters they take.  Nothing if a mark between documents starts one of the lines. -/
def quotedBreaks (atStart : Bool) : List Char → Option (List Char × Nat)
  | [] => some ([], 0)
  | c :: cs =>
    if atStart && atSeparator (c :: cs) then none
    else if c = ' ' ∨ c = '\t' then
      (quotedBreaks false cs).map fun (breaks, n) => (breaks, n + 1)
    else if c = '\r' ∧ cs.head? = some '\n' then
      (quotedBreaks false cs).map fun (breaks, n) => (breaks, n + 1)
    else
      match lineEnd? (c :: cs) with
      | some (b, _) => (quotedBreaks true cs).map fun (breaks, n) => (b :: breaks, n + 1)
      | none => some ([], 0)

/-- The meaning of an escape of one letter between double quotes. -/
def letterMeaning? (c : Char) : Option Char :=
  [('0', '\x00'), ('a', '\x07'), ('b', '\x08'), ('t', '\t'), ('\t', '\t'), ('n', '\n'),
   ('v', '\x0b'), ('f', '\x0c'), ('r', '\r'), ('e', '\x1b'), (' ', ' '), ('"', '"'), ('\\', '\\'),
   ('/', '/'), ('N', '\x85'), ('_', '\u00a0'), ('L', '\u2028'), ('P', '\u2029')].lookup c

/-- How many hexadecimal digits follow an escape letter. -/
def codeLength? (c : Char) : Option Nat :=
  [('x', 2), ('u', 4), ('U', 8)].lookup c

/-- The code point that the digits of an escape stand for. -/
def codeMeaning (digits : List Char) : Except Fault Nat :=
  match readHex? digits with
  | none => .error .malformed
  | some n => (codePoint n).mapError .noCharacter

/-- The meaning of what follows a backslash between double quotes, and how many characters it
takes. -/
def escapeMeaning (cs : List Char) : Except Fault (List Nat × Nat) :=
  match cs with
  | [] => .error .malformed
  | c :: rest =>
    match letterMeaning? c, codeLength? c, lineEnd? cs with
    | some meaning, _, _ => .ok ([meaning.toNat], 1)
    | none, some n, _ =>
      if (rest.take n).length = n then
        (codeMeaning (rest.take n)).map fun code => ([code], n + 1)
      else .error .malformed
    | none, none, some (_, n) =>
      orMalformed <| (quotedBreaks true (cs.drop n)).map fun (breaks, m) =>
        (breaks.map Char.toNat, n + m)
    | none, none, none => .error .malformed

/-- The spaces, or the line ends, at the start of a text: their meaning and how many characters
they take. -/
def quotedSpaces? (cs : List Char) : Option (List Char × Nat) :=
  let blanks := cs.takeWhile fun c => c == ' ' || c == '\t'
  let rest := cs.drop blanks.length
  match rest, lineEnd? rest with
  | [], _ => none
  | _, none => some (blanks, blanks.length)
  | _, some (b, n) =>
    (quotedBreaks true (rest.drop n)).map fun (more, m) =>
      (foldedBreaks b more, blanks.length + n + m)

/-- One part of a quoted scalar: its meaning and how many characters it takes. -/
def quotedPart (double : Bool) (cs : List Char) : Except Fault (List Nat × Nat) :=
  match cs with
  | [] => .error .malformed
  | c :: rest =>
    if isWhite c then
      orMalformed <| (quotedSpaces? cs).map fun (spaces, n) => (spaces.map Char.toNat, n)
    else if double && c == '\\' then
      (escapeMeaning rest).map fun (meaning, n) => (meaning, n + 1)
    else if !double && c == '\'' && rest.head? == some '\'' then .ok ([c.toNat], 2)
    else .ok ([c.toNat], 1)

/-- Reads a quoted scalar after its opening quote up to its closing quote: its code points and how
many characters it takes.  The first argument bounds the number of its parts. -/
def quotedText (double : Bool) : Nat → List Char → Except Fault (List Nat × Nat)
  | 0, _ => .error .malformed
  | fuel + 1, cs =>
    let quote := if double then '"' else '\''
    if cs.head? == some quote && (double || (cs.drop 1).head? != some quote) then .ok ([], 1)
    else
      match quotedPart double cs with
      | .error fault => .error fault
      | .ok (meaning, n) =>
        (quotedText double fuel (cs.drop n)).map fun (text, m) => (meaning ++ text, n + m)

/-! ## Plain scalars -/

/-- The characters that end a plain scalar inside brackets. -/
def isFlowMark (c : Char) : Bool :=
  [',', '[', ']', '{', '}'].contains c

/-- How many characters of a text belong to one run of a plain scalar. -/
def plainSpan (inFlow : Bool) : List Char → Nat
  | [] => 0
  | c :: cs =>
    if isWhite c then 0
    else if c == ':' && (endsWord cs || (inFlow && cs.head?.any isFlowMark)) then 0
    else if inFlow && (c == '?' || isFlowMark c) then 0
    else plainSpan inFlow cs + 1

/-- What comes between two runs of a plain scalar. -/
structure PlainGap where
  /-- The text it stands for; empty if the scalar ends here. -/
  text : List Char
  /-- The place after it. -/
  cursor : Cursor
  /-- Whether a line end is in it. -/
  newLine : Bool

/-- The line ends after a first one, with the spaces between them, and how many characters they
take.  Nothing for the text if a mark between documents starts one of the lines. -/
def plainBreaks (atStart : Bool) : List Char → Option (List Char) × Nat
  | [] => (some [], 0)
  | c :: cs =>
    if atStart && atSeparator (c :: cs) then (none, 0)
    else if c = ' ' ∨ (c = '\r' ∧ cs.head? = some '\n') then
      let (breaks, n) := plainBreaks false cs
      (breaks, n + 1)
    else
      match lineEnd? (c :: cs) with
      | some (b, _) =>
        let (breaks, n) := plainBreaks true cs
        (breaks.map (b :: ·), n + 1)
      | none => (some [], 0)

/-- Reads what comes after a run of a plain scalar. -/
def plainGap (c : Cursor) : PlainGap :=
  let spaces := c.rest.takeWhile (· == ' ')
  let c := c.skip spaces.length
  match lineEnd? c.rest with
  | none => ⟨spaces, c, false⟩
  | some (b, n) =>
    let (more, m) := plainBreaks true (c.rest.drop n)
    ⟨(more.map (foldedBreaks b)).getD [], c.skip (n + m), true⟩

/-- Reads a plain scalar: its text, the place after it, and whether that place is on a new line
after it.  Lines that are indented less than `indent` end it outside of brackets.  The first
argument bounds the number of its runs. -/
def plainText? (inFlow : Bool) (indent : Int) : Nat → Cursor → List Char × Cursor × Bool
  | 0, c => ([], c, false)
  | fuel + 1, c =>
    let n := if c.peek == some '#' then 0 else plainSpan inFlow c.rest
    if n = 0 then ([], c, false)
    else
      let gap := plainGap (c.skip n)
      let word := c.rest.take n
      if gap.text.isEmpty || gap.cursor.peek == some '#' ||
          (!inFlow && gap.cursor.column < indent) then
        (word, gap.cursor, gap.newLine)
      else
        match plainText? inFlow indent fuel gap.cursor with
        | ([], c, _) => (word, c, gap.newLine)
        | (text, c, newLine) => (word ++ gap.text ++ text, c, newLine)

end PrintSpec.Yaml
