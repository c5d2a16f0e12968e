import PrintSpec.Text.Blank
import PrintSpec.Text.Digit
import PrintSpec.Text.Quoted

/-!
# Numerals

Reading whole numbers from text.  The digits may be those of any script, but a numeral may hold
at most `Numeral.digitLimit` of them, leading zeros included: a longer one is refused before its
value is computed.

The limit also holds for writing: a number of more digits has no numeral.

`Numeral.readDigits` reads a bare run of digits.  `Numeral.read` reads a number the way people
write one: blanks around it, one sign, and single underscores between the digits.
-/

namespace PrintSpec.Numeral

open PrintSpec.Text

/-- The greatest number of digits that a numeral may have. -/
def digitLimit : Nat := 4300

/-- Why a text is not read as a number. -/
inductive Error where
  /-- The numeral has more digits than the limit allows; the count tells how many. -/
  | tooLong (digits : Nat)
  /-- The text is not a numeral of the base at all. -/
  | malformed (base : Nat) (text : String)
  deriving DecidableEq, Repr

/-- Whether a number has a numeral within the limit. -/
def isWritable (n : Int) : Bool :=
  n.natAbs < Nat.pow 10 digitLimit

/-- The wording for a number that is too long to be written. -/
def unwritableMessage : String :=
  "Exceeds the limit (" ++ toString digitLimit ++
    " digits) for integer string conversion; use sys.set_int_max_str_digits() to increase the limit"

/-- How much of a malformed text a message shows. -/
def shownLimit : Nat := 200

/-- The wording of each cause. -/
def Error.message : Error → String
  | .tooLong digits =>
    "Exceeds the limit (" ++ toString digitLimit ++
      " digits) for integer string conversion: value has " ++ toString digits ++
      " digits; use sys.set_int_max_str_digits() to increase the limit"
  | .malformed base text =>
    "invalid literal for int() with base " ++ toString base ++ ": " ++
      String.ofList ((quoted text).toList.take shownLimit)

/-- The number that a run of decimal digits denotes. -/
def ofDigits (digits : List Char) : Nat :=
  digits.foldl (fun n d => 10 * n + digitValue d) 0

/-- The number that a run of decimal digits denotes, if the run is not too long. -/
def readDigits (digits : List Char) : Except Error Nat :=
  if digitLimit < digits.length then .error (.tooLong digits.length)
  else .ok (ofDigits digits)

/-- The blanks that may stand around a numeral.  The information separators are not among them. -/
def isMargin (c : Char) : Bool :=
  if c.toNat < 127 then [' ', '\t', '\n', '\x0b', '\x0c', '\r'].contains c else isBlank c

/-- Whether a run of digits and underscores has a digit on both sides of every underscore.  The
flag says whether a digit comes directly before. -/
def wellGrouped (afterDigit : Bool) : List Char → Bool
  | [] => afterDigit
  | c :: cs => if c = '_' then afterDigit && wellGrouped false cs else wellGrouped true cs

/-- Splits a leading sign off a text: whether the sign is a minus, and the rest. -/
def splitSign : List Char → Bool × List Char
  | '-' :: cs => (true, cs)
  | '+' :: cs => (false, cs)
  | cs => (false, cs)

/-- Reads a whole number with blanks around it, an optional sign and grouped digits. -/
def read (text : String) : Except Error Int :=
  let (negative, body) := splitSign (text.toList.dropWhile isMargin)
  let inNumeral : Char → Bool := fun c => isDigit c || c == '_'
  let run := body.takeWhile inNumeral
  if wellGrouped false run then
    match readDigits (run.filter (· ≠ '_')) with
    | .error e => .error e
    | .ok n =>
      if (body.dropWhile inNumeral).all isMargin then
        .ok (if negative then -(n : Int) else n)
      else .error (.malformed 10 text)
  else .error (.malformed 10 text)

end PrintSpec.Numeral
