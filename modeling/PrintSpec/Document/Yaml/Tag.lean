import PrintSpec.Text.Pattern

/-!
# What a plain scalar stands for

A scalar without quotes may be read as something other than text: a truth value, a number, a
date, the missing value, or one of two signs with a meaning of their own.  The patterns below
decide which.  A text that one of them matches cannot be written without quotes.
-/

namespace PrintSpec.Yaml

open PrintSpec.Text PrintSpec.Text.Pattern

/-- What a plain scalar stands for. -/
inductive Tag where
  | bool
  | float
  | int
  | merge
  | null
  | timestamp
  | value
  | str
  deriving DecidableEq, Repr

namespace Tag

/-- An ASCII digit. -/
def digit : Pattern := anyOf "0123456789"

/-- ASCII digits with underscores among them, possibly none. -/
def grouped : Pattern := .star (anyOf "0123456789_")

/-- An optional sign. -/
def sign : Pattern := optional (anyOf "-+")

/-- A colon and a number below sixty, at least once. -/
def sixties : Pattern :=
  atLeastOnce (inOrder [lit ":", optional (anyOf "012345"), digit])

/-- The words for truth values. -/
def boolPattern : Pattern :=
  oneOf (["yes", "Yes", "YES", "no", "No", "NO", "true", "True", "TRUE", "false", "False",
    "FALSE", "on", "On", "ON", "off", "Off", "OFF"].map lit)

/-- Whole numbers: binary, octal, decimal, hexadecimal, and base sixty. -/
def intPattern : Pattern :=
  let leading := inOrder [anyOf "123456789", grouped]
  .seq sign (oneOf
    [inOrder [lit "0b", atLeastOnce (anyOf "01_")],
     inOrder [lit "0", atLeastOnce (anyOf "01234567_")],
     lit "0",
     leading,
     inOrder [lit "0x", atLeastOnce (anyOf "0123456789abcdefABCDEF_")],
     inOrder [leading, sixties]])

/-- Numbers with a fraction, infinities, and the number that is none. -/
def floatPattern : Pattern :=
  let exponent := optional (inOrder [anyOf "eE", anyOf "-+", atLeastOnce digit])
  oneOf
    [inOrder [sign, digit, grouped, lit ".", grouped, exponent],
     inOrder [lit ".", digit, grouped, exponent],
     inOrder [sign, digit, grouped, sixties, lit ".", grouped],
     inOrder [sign, lit ".", oneOf (["inf", "Inf", "INF"].map lit)],
     inOrder [lit ".", oneOf (["nan", "NaN", "NAN"].map lit)]]

/-- The words for the missing value, and no text at all. -/
def nullPattern : Pattern :=
  oneOf (["~", "null", "Null", "NULL", ""].map lit)

/-- Dates, and dates with a time of day. -/
def timestampPattern : Pattern :=
  let shortNumber := inOrder [digit, optional digit]
  let blank := anyOf " \t"
  let zone := oneOf
    [lit "Z",
     inOrder [anyOf "-+", shortNumber, optional (inOrder [lit ":", times 2 digit])]]
  oneOf
    [inOrder [times 4 digit, lit "-", times 2 digit, lit "-", times 2 digit],
     inOrder
      [times 4 digit, lit "-", shortNumber, lit "-", shortNumber,
       .alt (anyOf "Tt") (atLeastOnce blank), shortNumber,
       lit ":", times 2 digit, lit ":", times 2 digit,
       optional (inOrder [lit ".", .star digit]),
       optional (inOrder [.star blank, zone])]]

/-- The patterns with what they stand for; the first that matches decides. -/
def patterns : List (Tag × Pattern) :=
  [(.bool, boolPattern), (.float, floatPattern), (.int, intPattern), (.merge, lit "<<"),
   (.null, nullPattern), (.timestamp, timestampPattern), (.value, lit "=")]

/-- What a plain scalar stands for. -/
def ofPlain (text : String) : Tag :=
  ((patterns.find? fun t => t.2.accepts text.toList).map Prod.fst).getD .str

end Tag

end PrintSpec.Yaml
