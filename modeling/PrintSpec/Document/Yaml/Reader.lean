import PrintSpec.Document.Value
import PrintSpec.Document.Yaml.Node
import PrintSpec.Document.Yaml.Tag
import PrintSpec.Numeral

/-!
# Reading documents

The tree of a document is turned into values.  A plain scalar is read as what its `Tag` says, a
quoted one is a text.  Keys are scalars; a merge key takes over the entries of the mapping, or of
the list of mappings, that is its value, and entries of its own come after those.

The tree is built level by level, so of several faults the one nearest to the root counts, and
among equals the first, where merged entries come before a mapping's own.
-/

namespace PrintSpec.Yaml

/-- Why a text is not read as a document. -/
inductive Error where
  | malformed
  /-- An escape in it stands for no character. -/
  | noCharacter (e : Text.CodeError)
  | numeral (e : Numeral.Error)
  deriving DecidableEq, Repr

/-! ## Scalars -/

/-- The number that digits of a base denote. -/
def ofBase (base : Nat) (digits : List Char) : Except Error Nat :=
  if digits.isEmpty then .error (.numeral (.malformed base ""))
  else .ok (digits.foldl (fun n d => base * n + (Text.hexValue? d).getD 0) 0)

/-- The number that decimal digits denote. -/
def ofDecimal (digits : List Char) : Except Error Nat :=
  (Numeral.readDigits digits).mapError .numeral

/-- The parts of a text between colons. -/
def colonParts : List Char → List (List Char)
  | [] => [[]]
  | c :: cs =>
    match colonParts cs with
    | [] => [[c]]
    | part :: parts => if c = ':' then [] :: part :: parts else (c :: part) :: parts

/-- The number that an unsigned numeral without underscores denotes. -/
def ofNumeral (cs : List Char) : Except Error Nat :=
  match cs with
  | ['0'] => .ok 0
  | '0' :: 'b' :: digits => ofBase 2 digits
  | '0' :: 'x' :: digits => ofBase 16 digits
  | '0' :: _ => ofBase 8 cs
  | _ =>
    if cs.contains ':' then do
      let parts ← (colonParts cs).mapM ofDecimal
      return parts.foldl (fun n part => 60 * n + part) 0
    else ofDecimal cs

/-- The number that a plain scalar denotes. -/
def ofInt (text : String) : Except Error Int :=
  let (negative, body) := Numeral.splitSign (text.toList.filter (· ≠ '_'))
  (ofNumeral body).map fun n => if negative then -(n : Int) else n

/-- The number that an unsigned numeral with a point denotes. -/
def ofPointed (cs : List Char) : Double :=
  let fraction := (cs.dropWhile (· != '.')).drop 1
  let (negative, exponent) := Numeral.splitSign ((fraction.dropWhile (· != 'e')).drop 1)
  let n := Numeral.ofDigits exponent
  .ofNumeral false (cs.takeWhile (· != '.')) (fraction.takeWhile (· != 'e'))
    (if negative then -(n : Int) else n)

/-- The number that parts in base sixty denote, the last one first.  Every step is rounded. -/
def ofSixties (parts : List (List Char)) : Double :=
  let term (i : Nat) (part : List Char) : Double :=
    (ofPointed part).mul (.ofRatio false (Nat.pow 60 i) 1)
  (parts.zipIdx.map fun (part, i) => term i part).foldl .addAbs (.ofRatio false 0 1)

/-- The number of double precision that a plain scalar denotes. -/
def ofFloat (text : String) : Double :=
  let kept := text.toList.filter (· ≠ '_')
  let (negative, body) := Numeral.splitSign (kept.map Char.toLower)
  let d : Double :=
    if body = ".inf".toList then .infinite false
    else if body = ".nan".toList then .nan
    else if body.contains ':' then ofSixties (colonParts body).reverse
    else ofPointed body
  if negative then d.negate else d

/-- The words for true. -/
def trueWords : List String :=
  ["yes", "Yes", "YES", "true", "True", "TRUE", "on", "On", "ON"]

/-- The value of a plain scalar.  Dates are refused, and so are the two signs that mean something
only as keys. -/
def ofPlain (text : String) : Except Error Scalar :=
  match Tag.ofPlain text with
  | .null => .ok .null
  | .bool => .ok (.bool (trueWords.contains text))
  | .int => (ofInt text).map .int
  | .float => .ok (.double (ofFloat text))
  | .str => .ok (.str text)
  | .timestamp | .merge | .value => .error .malformed

/-! ## Faults by level -/

/-- A result, or the fault that comes first, with its level. -/
abbrev Leveled (α : Type) := Except (Nat × Error) α

namespace Leveled

/-- Two results together; of two faults the one of the lower level counts. -/
def pair {α β : Type} : Leveled α → Leveled β → Leveled (α × β)
  | .ok a, .ok b => .ok (a, b)
  | .error e, .ok _ => .error e
  | .ok _, .error e => .error e
  | .error e, .error e' => .error (if e'.1 < e.1 then e' else e)

/-- A result in front of others. -/
def cons {α : Type} (a : Leveled α) (as : Leveled (List α)) : Leveled (List α) :=
  (pair a as).map fun (a, as) => a :: as

/-- Some results before others. -/
def append {α : Type} (as bs : Leveled (List α)) : Leveled (List α) :=
  (pair as bs).map fun (as, bs) => as ++ bs

end Leveled

/-! ## Trees -/

namespace Node

/-- Whether a key takes over the entries of its value. -/
def isMergeKey : Node → Bool
  | .plain text => Tag.ofPlain text == .merge
  | _ => false

/-- Whether a node is a mapping. -/
def isMapping : Node → Bool
  | .mapping _ => true
  | _ => false

mutual

/-- Whether the merge keys of some entries, and those that they lead to, stand before mappings. -/
def mergesWell : List (Node × Node) → Bool
  | [] => true
  | (key, value) :: rest =>
    (!key.isMergeKey || mergesInto value) && mergesWell rest

/-- Whether a value can be merged. -/
def mergesInto : Node → Bool
  | .plain _ | .quoted _ => false
  | .mapping entries => mergesWell entries
  | .sequence items => mergesAll items

/-- Whether every item of a list is a mapping that can be merged. -/
def mergesAll : List Node → Bool
  | [] => true
  | item :: rest => item.isMapping && mergesInto item && mergesAll rest

end

/-- The key that a node denotes.  Only scalars are keys, and the sign `=` is one too. -/
def toKey (level : Nat) : Node → Leveled Scalar
  | .plain text =>
    if Tag.ofPlain text = .value then .ok (.str text)
    else (ofPlain text).mapError (level, ·)
  | .quoted content => .ok content
  | _ => .error (level, .malformed)

mutual

/-- The value of a node at a level. -/
def toValue (level : Nat) : Node → Leveled Value
  | .plain text => (ofPlain text).map .scalar |>.mapError (level, ·)
  | .quoted content => .ok (.scalar content)
  | .sequence items => (itemValues (level + 1) items).map .list
  | .mapping entries =>
    if mergesWell entries then
      ((mergedEntries (level + 1) entries).append (ownEntries (level + 1) entries)).map
        Value.ofEntries
    else .error (level + 1, .malformed)

/-- The values of the items of a sequence. -/
def itemValues (level : Nat) : List Node → Leveled (List Value)
  | [] => .ok []
  | item :: rest => (toValue level item).cons (itemValues level rest)

/-- The entries of a mapping that are its own. -/
def ownEntries (level : Nat) : List (Node × Node) → Leveled (List (Scalar × Value))
  | [] => .ok []
  | (key, value) :: rest =>
    if key.isMergeKey then ownEntries level rest
    else (Leveled.pair (toKey level key) (toValue level value)).cons (ownEntries level rest)

/-- The entries of a mapping that its merge keys take over. -/
def mergedEntries (level : Nat) : List (Node × Node) → Leveled (List (Scalar × Value))
  | [] => .ok []
  | (key, value) :: rest =>
    if key.isMergeKey then (takenEntries level value).append (mergedEntries level rest)
    else mergedEntries level rest

/-- The entries that are taken over from a mapping or from a list of mappings. -/
def takenEntries (level : Nat) : Node → Leveled (List (Scalar × Value))
  | .mapping entries => (mergedEntries level entries).append (ownEntries level entries)
  | .sequence items => takenItems level items
  | .plain _ | .quoted _ => .error (level, .malformed)

/-- The entries that are taken over from a list of mappings, those of later ones first. -/
def takenItems (level : Nat) : List Node → Leveled (List (Scalar × Value))
  | [] => .ok []
  | item :: rest => (takenItems level rest).append (takenEntries level item)

end

end Node

/-! ## Documents -/

/-- The tree of a text, if it holds a document.  A fault that interrupts its tokens
counts unless one of the tokens before it is out of place. -/
def nodeOf (text : String) : Except Fault (Option Node) :=
  match tokensOf text with
  | .ok tokens => (Node.ofTokens tokens).mapError fun _ => .malformed
  | .error interruption =>
    match Node.ofTokens interruption.tokens with
    | .error (_ :: _) => .error .malformed
    | _ => .error interruption.fault

/-- Reads a text; a text without a document is the missing value. -/
def parse (text : String) : Except Error Value :=
  match nodeOf text with
  | .error .malformed => .error .malformed
  | .error (.noCharacter e) => .error (.noCharacter e)
  | .ok none => .ok .null
  | .ok (some node) => (node.toValue 0).mapError Prod.snd

end PrintSpec.Yaml
