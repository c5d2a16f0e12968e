import PrintSpec.Double.Shortest
import PrintSpec.Numeral
import PrintSpec.Text.CodePoint
import PrintSpec.Text.Quoted

/-!
# Document values

The values that a token dump can hold once it is read back: nothing about their types is
promised, so every later step has to cope with any of them.  A mapping keeps its entries in the
order in which their keys first appeared.
-/

namespace PrintSpec

/-- A value without parts. -/
inductive Scalar where
  | null
  | bool (b : Bool)
  | int (n : Int)
  | double (d : Double)
  | str (s : String)
  /-- A text that holds half of a character, as a list of code points. -/
  | torn (codes : List Nat)
  deriving DecidableEq, Repr

/-- The text of some code points. -/
def Scalar.ofCodes (codes : List Nat) : Scalar :=
  match Text.charsOf? codes with
  | some cs => .str (String.ofList cs)
  | none => .torn codes

/-- A value of a document. -/
inductive Value where
  | scalar (s : Scalar)
  | list (items : List Value)
  | map (entries : List (Scalar × Value))
  deriving BEq, Repr

instance : Inhabited Value := ⟨.scalar .null⟩

namespace Value

/-- The value that stands for a missing one. -/
abbrev null : Value := .scalar .null

/-- A truth value. -/
abbrev bool (b : Bool) : Value := .scalar (.bool b)

/-- A whole number. -/
abbrev int (n : Int) : Value := .scalar (.int n)

/-- A text. -/
abbrev str (s : String) : Value := .scalar (.str s)

/-- Whether a value is the missing one. -/
def isNull : Value → Bool
  | .scalar .null => true
  | _ => false

/-- The text of a value that is one. -/
def text? : Value → Option String
  | .scalar (.str s) => some s
  | _ => none

/-- The code points of a value that is a text. -/
def codes? : Value → Option (List Nat)
  | .scalar (.str s) => some (Text.codes s)
  | .scalar (.torn codes) => some codes
  | _ => none

/-- Whether a value counts as true: it is neither missing, false, zero nor empty. -/
def isTruthy : Value → Bool
  | .scalar .null => false
  | .scalar (.bool b) => b
  | .scalar (.int n) => n != 0
  | .scalar (.double d) => !d.isZero
  | .scalar (.str s) => s != ""
  | .scalar (.torn codes) => !codes.isEmpty
  | .list items => !items.isEmpty
  | .map entries => !entries.isEmpty

/-- The value under a text key of a list of entries. -/
def lookup? (key : String) (entries : List (Scalar × Value)) : Option Value :=
  (entries.find? fun e => e.1 == .str key).map Prod.snd

/-- The whole number that a truth value or a number is equal to, in place of it. -/
def asWhole : Scalar → Scalar
  | .bool b => .int (if b then 1 else 0)
  | .double d => (d.toInt?.map Scalar.int).getD (.double d)
  | s => s

/-- Whether two keys are the same key: a truth value is the same key as zero or one, and a number
is the same key as a whole number that it is equal to. -/
def sameKey (a b : Scalar) : Bool :=
  asWhole a == asWhole b

/-- Puts a value under a key.  A key that is already there keeps its place. -/
def insertEntry (entries : List (Scalar × Value)) (key : Scalar) (value : Value) :
    List (Scalar × Value) :=
  match entries with
  | [] => [(key, value)]
  | e :: rest =>
    if sameKey e.1 key then (e.1, value) :: rest else e :: insertEntry rest key value

/-- The mapping that a list of entries describes, where a later value replaces an earlier one. -/
def ofEntries (entries : List (Scalar × Value)) : Value :=
  .map (entries.foldl (fun acc e => insertEntry acc e.1 e.2) [])

end Value

/-! ## Equality of values -/

mutual

/-- Whether two values are the same value: scalars are compared as keys are, and the order of the
entries of a mapping does not count. -/
def Value.same : Value → Value → Bool
  | .scalar a, .scalar b => Value.sameKey a b
  | .list as, .list bs => Value.sameItems as bs
  | .map as, .map bs => as.length == bs.length && Value.sameEntries as bs
  | _, _ => false

/-- Whether two lists hold the same values in the same order. -/
def Value.sameItems : List Value → List Value → Bool
  | [], [] => true
  | a :: as, b :: bs => a.same b && Value.sameItems as bs
  | _, _ => false

/-- Whether every entry of a mapping has its like among some entries. -/
def Value.sameEntries : List (Scalar × Value) → List (Scalar × Value) → Bool
  | [], _ => true
  | (k, v) :: rest, bs =>
    bs.any (fun e => Value.sameKey k e.1 && v.same e.2) && Value.sameEntries rest bs

end

/-- Whether a value is the one that is not a number. -/
def Value.isNan : Value → Bool
  | .scalar (.double .nan) => true
  | _ => false

/-- Whether two values are equal.  As a key and as an item the value that is not a number is the same
everywhere, but it is not equal to itself. -/
def Value.equal (v w : Value) : Bool :=
  !v.isNan && v.same w

/-! ## Showing a value in a message -/

/-- A scalar inside a message, texts between quotes. -/
def Scalar.quoted : Scalar → String
  | .null => "None"
  | .bool true => "True"
  | .bool false => "False"
  | .int n => toString n
  | .double d => String.ofList (d.text "nan" "inf")
  | .str s => Text.quoted s
  | .torn codes => Text.quotedCodes codes

/-- Whether a scalar can be shown: it is not a number too long to be written. -/
def Scalar.isShowable : Scalar → Bool
  | .int n => Numeral.isWritable n
  | _ => true

mutual

/-- A value inside a message, texts between quotes. -/
def Value.quoted : Value → String
  | .scalar s => s.quoted
  | .list items => "[" ++ Value.quotedItems items ++ "]"
  | .map entries => "\x7b" ++ Value.quotedEntries entries ++ "\x7d"

/-- The items of a list, with commas between them. -/
def Value.quotedItems : List Value → String
  | [] => ""
  | [v] => v.quoted
  | v :: w :: rest => v.quoted ++ ", " ++ Value.quotedItems (w :: rest)

/-- The entries of a mapping, with commas between them. -/
def Value.quotedEntries : List (Scalar × Value) → String
  | [] => ""
  | [(k, v)] => k.quoted ++ ": " ++ v.quoted
  | (k, v) :: e :: rest => k.quoted ++ ": " ++ v.quoted ++ ", " ++ Value.quotedEntries (e :: rest)

end

mutual

/-- Whether a value can be shown: no number in it is too long to be written. -/
def Value.isShowable : Value → Bool
  | .scalar s => s.isShowable
  | .list items => Value.areShowable items
  | .map entries => Value.entriesShowable entries

/-- Whether the items of a list can be shown. -/
def Value.areShowable : List Value → Bool
  | [] => true
  | v :: rest => v.isShowable && Value.areShowable rest

/-- Whether the entries of a mapping can be shown. -/
def Value.entriesShowable : List (Scalar × Value) → Bool
  | [] => true
  | (k, v) :: rest => k.isShowable && v.isShowable && Value.entriesShowable rest

end

/-- The code points of a value as a message or a program writes it: a text stands for itself.
Nothing if a number in the value is too long to be written. -/
def Value.shown? (v : Value) : Option (List Nat) :=
  match v.codes? with
  | some codes => some codes
  | none => if v.isShowable then some (Text.codes v.quoted) else none

/-- The name of the type of a value. -/
def Value.typeName : Value → String
  | .scalar .null => "NoneType"
  | .scalar (.bool _) => "bool"
  | .scalar (.int _) => "int"
  | .scalar (.double _) => "float"
  | .scalar (.str _) | .scalar (.torn _) => "str"
  | .list _ => "list"
  | .map _ => "dict"

end PrintSpec
