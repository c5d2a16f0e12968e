import PrintSpec.Token.Basic

/-!
# Token patterns

Seven patterns recognise the tokens that are not plain text.  A pattern looks at the rest of an
argument and says how many characters it takes, without reading any number; building the token
from those characters is a second step, and the only one that can fail.

    @@        a literal @                  %%        a literal %
    @N        a literal number             @{text}   literal text
    %{N}      a field, or %{A:B} a range   %N        a field
    N         a field

Here `N` is an optional minus followed by decimal digits of any script.
-/

namespace PrintSpec

open PrintSpec.Text

/-- What a pattern found at the start of a text: how many characters its token covers, which is never
none, and the part of them that carries the meaning, a number or the text between braces. -/
structure Match where
  size : Nat
  payload : List Char
  size_pos : 0 < size := by omega

/-- The seven patterns of the table. -/
inductive Matcher where
  | escapedAt
  | escapedPercent
  | literalNumber
  | literalBlock
  /-- A field or a range between braces. -/
  | bracedField
  /-- A field after a percent sign. -/
  | explicitField
  /-- A field written as a bare number. -/
  | implicitField
  deriving DecidableEq, Repr

namespace Matcher

/-! ## Numbers and braces -/

/-- The longest optional minus and digits at the start of a text; empty if there are no digits. -/
def signedDigits : List Char → List Char
  | '-' :: rest => if (rest.takeWhile isDigit).isEmpty then [] else '-' :: rest.takeWhile isDigit
  | cs => cs.takeWhile isDigit

/-- Whether a text as a whole is an optional minus and digits. -/
def isSignedDigits (cs : List Char) : Bool :=
  !cs.isEmpty && signedDigits cs == cs

/-- A number directly after `skipped` characters. -/
def findNumber (skipped : Nat) (cs : List Char) : Option Match :=
  match signedDigits cs with
  | [] => none
  | d :: ds =>
    some { size := skipped + (ds.length + 1), payload := d :: ds, size_pos := Nat.succ_pos _ }

/-- The text up to the first closing brace, for a text that follows an opening one. -/
def untilBrace (cs : List Char) : Option (List Char) :=
  if cs.contains '}' then some (cs.takeWhile (· ≠ '}')) else none

/-- A sigil, then text between braces. -/
def findBraced (sigil : Char) : List Char → Option Match
  | s :: '{' :: rest =>
    if s = sigil then
      (untilBrace rest).map fun inner => { size := inner.length + 3, payload := inner }
    else none
  | _ => none

/-- A sigil, then a number. -/
def findSigilNumber (sigil : Char) : List Char → Option Match
  | s :: rest => if s = sigil then findNumber 1 rest else none
  | [] => none

/-- A sigil written twice. -/
def findDoubled (sigil : Char) : List Char → Option Match
  | a :: b :: _ =>
    if a = sigil ∧ b = sigil then
      some { size := 2, payload := [sigil], size_pos := Nat.two_pos }
    else none
  | _ => none

/-! ## Tokens -/

/-- The field that a signed number names. -/
def fieldBody : List Char → Except Numeral.Error Body
  | '-' :: digits => (Numeral.readDigits digits).map .fieldFromEnd
  | digits => (Numeral.readDigits digits).map .field

/-- The two sides of a range, if the text is one: signed numbers around one colon, each of which
may be missing. -/
def rangeSides? (cs : List Char) : Option (List Char × List Char) :=
  match cs.dropWhile (· ≠ ':') with
  | [] => none
  | _ :: last =>
    let first := cs.takeWhile (· ≠ ':')
    if (first.isEmpty || isSignedDigits first) && (last.isEmpty || isSignedDigits last) then
      some (first, last)
    else none

/-- A range end that may be missing. -/
def boundOf (cs : List Char) : Except Numeral.Error (Option Bound) :=
  if cs.isEmpty then .ok none else (Bound.read (String.ofList cs)).map some

/-- What the text between the braces of a `%` block asks for.  The first end of a range is read
before the last one. -/
def bracedBody (inner : List Char) : Except Numeral.Error Body :=
  if isSignedDigits inner then fieldBody inner
  else
    match rangeSides? inner with
    | none => .ok (.invalid (String.ofList inner))
    | some (first, last) => do
      let first ← boundOf first
      let last ← boundOf last
      return .range first last

/-! ## The seven patterns -/

/-- In the order in which they are tried. -/
def all : List Matcher :=
  [escapedAt, escapedPercent, literalNumber, literalBlock, bracedField, explicitField,
   implicitField]

def name : Matcher → String
  | escapedAt => "escaped_at"
  | escapedPercent => "escaped_pct"
  | literalNumber => "literal_number"
  | literalBlock => "literal_block"
  | bracedField => "braced_field"
  | explicitField => "explicit_field"
  | implicitField => "implicit_field"

def find : Matcher → List Char → Option Match
  | escapedAt => findDoubled '@'
  | escapedPercent => findDoubled '%'
  | literalNumber => findSigilNumber '@'
  | literalBlock => findBraced '@'
  | bracedField => findBraced '%'
  | explicitField => findSigilNumber '%'
  | implicitField => findNumber 0

/-- What the payload of a pattern asks for.  Literal patterns keep it as text; field patterns read
the numbers in it. -/
def body (m : Matcher) (payload : List Char) : Except Numeral.Error Body :=
  match m with
  | escapedAt | escapedPercent => .ok (.sigil (String.ofList payload))
  | literalNumber => .ok (.number (String.ofList payload))
  | literalBlock => .ok (.block (String.ofList payload))
  | bracedField => bracedBody payload
  | explicitField | implicitField => fieldBody payload

/-- The token of what a pattern found. -/
def token (m : Matcher) (text payload : List Char) : Except Numeral.Error Token :=
  (m.body payload).map (Token.mk (String.ofList text))

/-- The first pattern of a list that is found at the start of a text, and what it found. -/
def first? (matchers : List Matcher) (cs : List Char) : Option (Matcher × Match) :=
  matchers.findSome? fun m => (m.find cs).map (m, ·)

end Matcher

end PrintSpec
