import PrintSpec.Document.Value
import PrintSpec.Numeral
import PrintSpec.Text.Hex

/-!
# Reading JSON

A recursive reader for JSON documents.  Besides numbers it takes three words for values that are
none.  Where a key occurs twice in an object, the last value counts.  The first fault from the
left decides the error.
-/

namespace PrintSpec.Json

open PrintSpec.Text

/-- Why a text is not read as a document. -/
inductive Error where
  | malformed
  | numeral (e : Numeral.Error)
  deriving DecidableEq, Repr

/-- The blanks between the parts of a document. -/
def isSpace (c : Char) : Bool :=
  [' ', '\t', '\n', '\r'].contains c

/-- A text without the blanks at its start. -/
def skipSpace (cs : List Char) : List Char :=
  cs.dropWhile isSpace

/-! ## Texts -/

/-- The meaning of an escape of one letter. -/
def letterEscape? (c : Char) : Option Char :=
  [('"', '"'), ('\\', '\\'), ('/', '/'), ('b', '\x08'), ('f', '\x0c'), ('n', '\n'), ('r', '\r'),
   ('t', '\t')].lookup c

/-- Reads a text after its opening quote up to its closing quote.  The result holds the units
that the text is written with, so that two escapes may still make one character. -/
def readUnits : List Char → Except Error (List Nat × List Char)
  | [] => .error .malformed
  | c :: rest =>
    if c = '"' then .ok ([], rest)
    else if c = '\\' then
      match rest with
      | 'u' :: a :: b :: c :: d :: rest =>
        match readHex? [a, b, c, d] with
        | none => .error .malformed
        | some n => (readUnits rest).map fun (units, rest) => (n :: units, rest)
      | e :: rest =>
        match letterEscape? e with
        | none => .error .malformed
        | some meaning =>
          (readUnits rest).map fun (units, rest) => (meaning.toNat :: units, rest)
      | [] => .error .malformed
    else if c.toNat < 0x20 then .error .malformed
    else (readUnits rest).map fun (units, rest) => (c.toNat :: units, rest)

/-- Reads a text after its opening quote. -/
def readString (cs : List Char) : Except Error (Scalar × List Char) :=
  (readUnits cs).map fun (units, rest) => (.ofCodes (joinHalves units), rest)

/-! ## Numbers -/

/-- The digits after a point; none where no digit follows it. -/
def fractionOf : List Char → List Char
  | '.' :: rest => rest.takeWhile Char.isDigit
  | _ => []

/-- The exponent at the start of a text and the text after it, if there is one. -/
def readExponent? : List Char → Option (Int × List Char)
  | c :: rest =>
    if c = 'e' ∨ c = 'E' then
      let (negative, body) := Numeral.splitSign rest
      let digits := body.takeWhile Char.isDigit
      if digits.isEmpty then none
      else
        let n := Numeral.ofDigits digits
        some (if negative then -(n : Int) else n, body.drop digits.length)
    else none
  | [] => none

/-- Reads a number without leading zeros.  A fraction or an exponent makes it one of double
precision. -/
def readNumber (cs : List Char) : Except Error (Scalar × List Char) :=
  let (negative, body) := match cs with
    | '-' :: rest => (true, rest)
    | _ => (false, cs)
  let whole := match body with
    | '0' :: _ => ['0']
    | _ => body.takeWhile Char.isDigit
  if whole.isEmpty then .error .malformed
  else
    let rest := body.drop whole.length
    let fraction := fractionOf rest
    let rest := if fraction.isEmpty then rest else rest.drop (fraction.length + 1)
    match readExponent? rest with
    | some (exponent, rest) => .ok (.double (.ofNumeral negative whole fraction exponent), rest)
    | none =>
      if fraction.isEmpty then
        match Numeral.readDigits whole with
        | .error e => .error (.numeral e)
        | .ok n => .ok (.int (if negative then -(n : Int) else n), rest)
      else .ok (.double (.ofNumeral negative whole fraction 0), rest)

/-! ## Values -/

/-- The rest of a text after a word that it begins with. -/
def afterWord? (word : List Char) (cs : List Char) : Option (List Char) :=
  if word.isPrefixOf cs then some (cs.drop word.length) else none

/-- The words that stand for a value. -/
def words : List (List Char × Scalar) :=
  [("null".toList, .null), ("true".toList, .bool true), ("false".toList, .bool false),
   ("NaN".toList, .double .nan), ("Infinity".toList, .double (.infinite false)),
   ("-Infinity".toList, .double (.infinite true))]

/-- Reads a word or a number. -/
def readAtom (cs : List Char) : Except Error (Value × List Char) :=
  match words.findSome? fun w => (afterWord? w.1 cs).map fun rest => (w.2, rest) with
  | some (s, rest) => .ok (.scalar s, rest)
  | none => (readNumber cs).map fun (s, rest) => (.scalar s, rest)

mutual

/-- Reads a value that begins at once.  The first argument bounds the nesting. -/
def readValue : Nat → List Char → Except Error (Value × List Char)
  | 0, _ => .error .malformed
  | fuel + 1, cs =>
    match cs with
    | '"' :: rest => (readString rest).map fun (s, rest) => (.scalar s, rest)
    | '[' :: rest =>
      match skipSpace rest with
      | ']' :: rest => .ok (.list [], rest)
      | rest => (readItems fuel rest).map fun (items, rest) => (.list items, rest)
    | '{' :: rest =>
      match skipSpace rest with
      | '}' :: rest => .ok (.map [], rest)
      | rest => (readEntries fuel rest).map fun (entries, rest) => (Value.ofEntries entries, rest)
    | cs => readAtom cs

/-- Reads the items of a list up to its end; at least one is there. -/
def readItems : Nat → List Char → Except Error (List Value × List Char)
  | 0, _ => .error .malformed
  | fuel + 1, cs => do
    let (item, rest) ← readValue fuel cs
    match skipSpace rest with
    | ',' :: rest =>
      let (items, rest) ← readItems fuel (skipSpace rest)
      return (item :: items, rest)
    | ']' :: rest => return ([item], rest)
    | _ => .error .malformed

/-- Reads the entries of an object up to its end; at least one is there. -/
def readEntries : Nat → List Char → Except Error (List (Scalar × Value) × List Char)
  | 0, _ => .error .malformed
  | fuel + 1, cs => do
    match cs with
    | '"' :: rest =>
      let (key, rest) ← readString rest
      match skipSpace rest with
      | ':' :: rest =>
        let (value, rest) ← readValue fuel (skipSpace rest)
        match skipSpace rest with
        | ',' :: rest =>
          let (entries, rest) ← readEntries fuel (skipSpace rest)
          return ((key, value) :: entries, rest)
        | '}' :: rest => return ([(key, value)], rest)
        | _ => .error .malformed
      | _ => .error .malformed
    | _ => .error .malformed

end

/-- Reads a document, with blanks around it and nothing else. -/
def parse (text : String) : Except Error Value := do
  let cs := text.toList
  let (value, rest) ← readValue (cs.length + 1) (skipSpace cs)
  if (skipSpace rest).isEmpty then return value else .error .malformed

end PrintSpec.Json
