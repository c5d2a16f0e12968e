import PrintSpec.Bound

/-!
# Tokens of a print specification

One argument of a print specification is cut into tokens.  A token keeps the text it was cut
from, so that the tokens of an argument, put together again, give the argument back, and it
says what that text asks for: literal text, a field, a range of fields, or a braced
specification that means nothing and is refused once it is compiled.
-/

namespace PrintSpec

/-- What a token asks for. -/
inductive Body where
  /-- The doubled sigil `@@` or `%%`, which stands for one. -/
  | sigil (text : String)
  /-- The number text after an `@`, printed as written. -/
  | number (text : String)
  /-- The text between the braces of an `@` block, printed as written. -/
  | block (text : String)
  /-- Text that belongs to no other token, printed as written. -/
  | plain (text : String)
  /-- A field by its number; the number zero is the whole record. -/
  | field (number : Nat)
  /-- A field by its distance from the end; the distance one is the last field. -/
  | fieldFromEnd (distance : Nat)
  /-- All fields between two ends, either of which may be left open. -/
  | range (first last : Option Bound)
  /-- The text between braces after a `%` that is neither a number nor a range. -/
  | invalid (interior : String)
  deriving DecidableEq, Repr

/-- A piece of an argument: the text that it covers, and what that text asks for. -/
structure Token where
  raw : String
  body : Body
  deriving DecidableEq, Repr

/-- The plain token that covers a text. -/
def Token.ofPlain (cs : List Char) : Token :=
  ⟨String.ofList cs, .plain (String.ofList cs)⟩

/-- The tokens of one argument. -/
structure Group where
  argument : String
  tokens : List Token
  deriving DecidableEq, Repr

namespace Group

/-- The texts of all tokens put together again. -/
def source (g : Group) : String :=
  String.join (g.tokens.map Token.raw)

end Group

/-! ## Kinds -/

/-- The kinds of token, as dumps name them. -/
inductive Kind where
  | fieldPositive
  | fieldNegative
  | literalNumber
  | literalBlock
  | literalEscapedChar
  | rangeField
  | plainText
  | invalidField
  deriving DecidableEq, Repr

namespace Kind

/-- Every kind once. -/
def all : List Kind :=
  [.fieldPositive, .fieldNegative, .literalNumber, .literalBlock, .literalEscapedChar,
   .rangeField, .plainText, .invalidField]

/-- The name of a kind in a dump. -/
def name : Kind → String
  | .fieldPositive => "field_positive"
  | .fieldNegative => "field_negative"
  | .literalNumber => "literal_number"
  | .literalBlock => "literal_block"
  | .literalEscapedChar => "literal_escaped_char"
  | .rangeField => "range_field"
  | .plainText => "plain_text"
  | .invalidField => "invalid_field"

/-- The kind with a given name. -/
def ofName? (name : String) : Option Kind :=
  all.find? fun k => k.name == name

end Kind

/-- The kind of a token. -/
def Body.kind : Body → Kind
  | .sigil _ => .literalEscapedChar
  | .number _ => .literalNumber
  | .block _ => .literalBlock
  | .plain _ => .plainText
  | .field _ => .fieldPositive
  | .fieldFromEnd _ => .fieldNegative
  | .range _ _ => .rangeField
  | .invalid _ => .invalidField

end PrintSpec
