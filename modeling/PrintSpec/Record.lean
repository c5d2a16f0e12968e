import PrintSpec.Awk.Program
import PrintSpec.Document.Value
import PrintSpec.Settings

/-!
# Token records

A dump holds a record for every token.  Loading a dump checks which keys are there and that the
kind is known; the values under the other keys are kept as they are, whatever their type, and
are judged only when the record is compiled.
-/

namespace PrintSpec

/-- A range end as a dump holds it. -/
structure BoundRecord where
  value : Value
  /-- Whether it counts from the last field. -/
  fromEnd : Value := .bool false
  deriving BEq, Repr

/-- A token as a dump holds it. -/
structure Record where
  kind : Kind
  /-- The text that the token covers. -/
  raw : Value
  text : Value := .null
  number : Value := .null
  first : Option BoundRecord := none
  last : Option BoundRecord := none
  deriving BEq, Repr

/-- The tokens of one argument as a dump holds them. -/
structure RecordGroup where
  argument : Value
  tokens : List Record
  deriving BEq, Repr

/-! ## Records of tokens -/

/-- The record of a range end. -/
def Bound.toRecord (b : Bound) : BoundRecord :=
  ⟨.int b.value, .bool b.fromEnd⟩

/-- The record of a token. -/
def Token.toRecord (t : Token) : Record :=
  match t.body with
  | .sigil text | .number text | .block text | .plain text | .invalid text =>
    { kind := t.body.kind, raw := .str t.raw, text := .str text }
  | .field n | .fieldFromEnd n => { kind := t.body.kind, raw := .str t.raw, number := .int n }
  | .range first last =>
    { kind := t.body.kind, raw := .str t.raw
      first := first.map Bound.toRecord, last := last.map Bound.toRecord }

/-- The records of a group. -/
def Group.toRecord (g : Group) : RecordGroup :=
  ⟨.str g.argument, g.tokens.map Token.toRecord⟩

/-! ## Records as document values -/

/-- The mapping of a range end. -/
def BoundRecord.toValue (b : BoundRecord) : Value :=
  .map [(.str "value", b.value), (.str "from_end", b.fromEnd)]

/-- An entry that is left out where its value is missing. -/
def optionalEntry (key : String) (value : Value) : List (Scalar × Value) :=
  if value.isNull then [] else [(.str key, value)]

/-- The value of a range end that may be missing. -/
def boundValue (b : Option BoundRecord) : Value :=
  (b.map BoundRecord.toValue).getD .null

/-- The mapping of a token.  Ranges always show both ends, other kinds never do. -/
def Record.toValue (r : Record) : Value :=
  .map <|
    [(.str "kind", .str r.kind.name), (.str "raw", r.raw)] ++
      optionalEntry "text" r.text ++ optionalEntry "number" r.number ++
      if r.kind = .rangeField then
        [(.str "start", boundValue r.first), (.str "end", boundValue r.last)]
      else []

/-- The mapping of a group. -/
def RecordGroup.toValue (g : RecordGroup) : Value :=
  .map [(.str "argument", g.argument), (.str "tokens", .list (g.tokens.map Record.toValue))]

/-! ## Reading records -/

/-- Why a document value is not a record. -/
inductive RecordError where
  | missingKey (key : String)
  | unknownKind (kind : Value)
  /-- The kind is not known and holds a number that is too long to be written. -/
  | unwritableKind
  /-- Something other than a mapping stands where keys are looked up. -/
  | notMapping
  /-- Something other than a list, a mapping or a text stands where items are looked for. -/
  | notIterable
  deriving BEq, Repr

/-- The wording of each cause. -/
def RecordError.message : RecordError → String
  | .missingKey key => Text.quoted key
  | .unknownKind kind => kind.quoted ++ " is not a valid TokenKind"
  | .unwritableKind => Numeral.unwritableMessage
  | .notMapping => "keys are looked up in something that is no mapping"
  | .notIterable => "items are looked for in something that has none"

namespace Value

/-- The value under a key that may be missing. -/
def get? (key : String) : Value → Except RecordError (Option Value)
  | .map entries => .ok (lookup? key entries)
  | _ => .error .notMapping

/-- The value under a key that has to be there. -/
def get (key : String) (v : Value) : Except RecordError Value := do
  match ← v.get? key with
  | some value => return value
  | none => .error (.missingKey key)

/-- The items of a value: those of a list, the keys of a mapping, the characters of a text. -/
def items : Value → Except RecordError (List Value)
  | .list items => .ok items
  | .map entries => .ok (entries.map fun e => .scalar e.1)
  | .scalar (.str s) => .ok (s.toList.map fun c => .str (String.singleton c))
  | .scalar (.torn codes) => .ok (codes.map fun n => .scalar (.ofCodes [n]))
  | .scalar _ => .error .notIterable

end Value

/-- Reads a range end that may be missing. -/
def BoundRecord.ofValue? (v : Value) : Except RecordError (Option BoundRecord) := do
  if v.isNull then return none
  let value ← v.get "value"
  let fromEnd ← v.get? "from_end"
  return some ⟨value, fromEnd.getD (.bool false)⟩

/-- The kind that a value names. -/
def Kind.ofValue (v : Value) : Except RecordError Kind :=
  match v.text?.bind Kind.ofName? with
  | some kind => .ok kind
  | none => .error (if v.isShowable then .unknownKind v else .unwritableKind)

/-- Reads a token. -/
def Record.ofValue (v : Value) : Except RecordError Record := do
  let kind ← Kind.ofValue (← v.get "kind")
  let raw ← v.get "raw"
  let text ← v.get? "text"
  let number ← v.get? "number"
  let first ← BoundRecord.ofValue? ((← v.get? "start").getD .null)
  let last ← BoundRecord.ofValue? ((← v.get? "end").getD .null)
  return ⟨kind, raw, text.getD .null, number.getD .null, first, last⟩

/-- Reads a group; one without tokens may leave them out. -/
def RecordGroup.ofValue (v : Value) : Except RecordError RecordGroup := do
  let argument ← v.get "argument"
  let tokens ← ((← v.get? "tokens").getD (.list [])).items
  return ⟨argument, ← tokens.mapM Record.ofValue⟩

/-- Reads all groups of a document. -/
def RecordGroup.ofDocument (v : Value) : Except RecordError (List RecordGroup) := do
  (← v.items).mapM RecordGroup.ofValue

/-! ## The text of a group -/

/-- The covered texts put together again; nothing if one of them is not a text. -/
def RecordGroup.source? (g : RecordGroup) : Option Scalar :=
  (g.tokens.mapM fun (r : Record) => r.raw.codes?).map fun parts => .ofCodes parts.flatten

/-! ## Compiling records -/

/-- The message about a braced specification that means nothing, given by any value; nothing if a
number that the message shows is too long to be written. -/
def invalidMessage? (specifier argument : Value) : Option (List Nat) := do
  let shown ← specifier.shown?
  let place ←
    if argument.isTruthy && !argument.equal specifier then
      if argument.isShowable then some (InvalidField.place argument.quoted) else none
    else some ""
  return Text.codes InvalidField.opening ++ shown ++ Text.codes place

/-- A record of a braced specification that means nothing, and the argument in which it stands. -/
structure InvalidRecord where
  specifier : Value
  argument : Value
  message : List Nat
  message_eq : invalidMessage? specifier argument = some message

/-- Why a record is not compiled. -/
inductive CompileError where
  | invalidField (e : InvalidRecord)
  /-- What stands for the text of a literal is not a text. -/
  | noText (value : Value)
  /-- A number that would have to be written is too long for it. -/
  | unwritable

namespace CompileError

/-- The wording of each cause, in code points. -/
def message : CompileError → List Nat
  | .invalidField e => e.message
  | .noText value =>
    Text.codes ("'" ++ value.typeName ++ "' object has no attribute 'replace'")
  | .unwritable => Text.codes Numeral.unwritableMessage

/-- The failure for a braced specification that means nothing. -/
def ofInvalid (specifier argument : Value) : CompileError :=
  match h : invalidMessage? specifier argument with
  | some message => .invalidField ⟨specifier, argument, message, h⟩
  | none => .unwritable

end CompileError

namespace Record

open PrintSpec.Awk

/-- The code points that a program shows for a value. -/
def written (v : Value) : Except CompileError (List Nat) :=
  match v.shown? with
  | some codes => .ok codes
  | none => .error .unwritable

/-- The awk text of a range end that may be missing. -/
def boundOperand (bound : Option BoundRecord) (missing : String) :
    Except CompileError (List Nat) :=
  match bound with
  | none => .ok (Text.codes missing)
  | some b => (written b.value).map fun value =>
    if b.fromEnd.isTruthy then Text.codes "NF - " ++ value ++ Text.codes " + 1" else value

/-- Compiles a record of an argument to the text of an awk expression.  Its values may be of any
type, and a text among them may hold half of a character, which then stands in the expression. -/
def compile (argument : Value) (r : Record) : Except CompileError Scalar :=
  match r.kind with
  | .literalEscapedChar | .literalNumber | .literalBlock | .plainText =>
    match r.text.codes? with
    | some text => .ok (.ofCodes (quoteCodes text))
    | none => .error (.noText r.text)
  | .fieldPositive => do
    let number ← written r.number
    return .ofCodes (Text.codes "$" ++ number)
  | .fieldNegative => do
    let number ← written r.number
    return .ofCodes (Text.codes (fieldFromEnd.name ++ "(") ++ number ++ Text.codes ")")
  | .rangeField => do
    let first ← boundOperand r.first Fragment.openFirst
    let last ← boundOperand r.last Fragment.openLast
    return .ofCodes
      (Text.codes (joinRange.name ++ "(") ++ first ++ Text.codes ", " ++ last ++ Text.codes ")")
  | .invalidField => .error (.ofInvalid r.raw argument)

end Record

/-- Compiles all records of a group, in order. -/
def RecordGroup.compile (g : RecordGroup) : Except CompileError (List Scalar) :=
  g.tokens.mapM (Record.compile g.argument)

end PrintSpec
