import PrintSpec.Document.Value
import PrintSpec.Document.Yaml.Folded

/-!
# The tokens of a document

A document is read as a list of tokens: scalars, the marks that are written, and the starts and
ends of blocks, which only the indentation shows.

That a scalar or a bracketed collection is a key is known only once a colon follows it.  So its
place is kept as a pending key, and the tokens that announce a key are put in there when the
colon is met.  A pending key lasts to the end of its line and for at most 1024 characters.

Tags, anchors, aliases, directives and block scalars are refused.
-/

namespace PrintSpec.Yaml

/-- A token of a document. -/
inductive Token where
  | documentStart
  | documentEnd
  | blockSequenceStart
  | blockMappingStart
  | blockEnd
  | flowSequenceStart
  | flowSequenceEnd
  | flowMappingStart
  | flowMappingEnd
  | blockEntry
  | flowEntry
  | key
  | value
  /-- A scalar without quotes. -/
  | plain (text : String)
  /-- A scalar between quotes. -/
  | quoted (content : Scalar)
  deriving DecidableEq, Repr

/-- A place at which a key may have started. -/
structure PendingKey where
  /-- The depth of brackets around it. -/
  level : Nat
  /-- How many tokens came before it. -/
  position : Nat
  /-- Whether a key has to be here, since it stands at the indentation of a mapping. -/
  required : Bool
  index : Nat
  line : Nat
  column : Nat
  deriving DecidableEq, Repr

/-- The state of reading a document into tokens. -/
structure Scanner where
  cursor : Cursor
  tokens : List Token := []
  /-- The column of the current block; minus one outside of all blocks. -/
  indent : Int := -1
  /-- The columns of the blocks around it. -/
  indents : List Int := []
  level : Nat := 0
  /-- Whether a key may start here. -/
  keyAllowed : Bool := true
  /-- The pending keys, at most one for each depth. -/
  pending : List PendingKey := []

/-- A text that was not read to its end. -/
structure Interruption where
  /-- The tokens that were settled by then. -/
  tokens : List Token
  /-- Why the reading stopped. -/
  fault : Fault
  deriving DecidableEq, Repr

namespace Scanner

/-- For how many characters a key may be pending. -/
def keyReach : Nat := 1024

/-- Adds a token. -/
def push (s : Scanner) (t : Token) : Scanner :=
  { s with tokens := s.tokens ++ [t] }

/-- Passes over some characters. -/
def skip (s : Scanner) (n : Nat) : Scanner :=
  { s with cursor := s.cursor.skip n }

/-- Whether the place is inside brackets. -/
def inFlow (s : Scanner) : Bool :=
  s.level != 0

/-! ## Blocks -/

/-- Ends the blocks that are indented deeper than a column. -/
def endBlocks (column : Int) : List Int → Scanner → Scanner
  | [], s => s
  | outer :: rest, s =>
    if column < s.indent then
      endBlocks column rest { s.push .blockEnd with indent := outer, indents := rest }
    else s

/-- Ends the blocks that are indented deeper than a column, unless inside brackets. -/
def unwind (s : Scanner) (column : Int) : Scanner :=
  if s.inFlow then s else endBlocks column s.indents s

/-- Starts a block at a column, if it is indented deeper than the current one.  The token that
starts it is put in before the token at `position`. -/
def startBlock (s : Scanner) (column position : Nat) (start : Token) : Scanner :=
  if s.indent < column then
    { s with
      tokens := s.tokens.take position ++ start :: s.tokens.drop position
      indents := s.indent :: s.indents
      indent := column }
  else s

/-! ## Pending keys -/

/-- Whether a pending key is too far back. -/
def isStale (s : Scanner) (k : PendingKey) : Bool :=
  k.line != s.cursor.line || keyReach < s.cursor.index - k.index

/-- Drops the pending keys that are too far back; a required one must not be dropped. -/
def dropStale (s : Scanner) : Except Fault Scanner :=
  if s.pending.any fun k => s.isStale k && k.required then .error .malformed
  else .ok { s with pending := s.pending.filter fun k => !s.isStale k }

/-- The tokens before which nothing can be put in any more: those before all pending keys. -/
def settled (s : Scanner) : List Token :=
  let unsettled := s.pending.filter fun k => !s.isStale k
  s.tokens.take (unsettled.foldl (fun n k => min n k.position) s.tokens.length)

/-- Drops the pending key at the current depth; a required one must not be dropped. -/
def dropKey (s : Scanner) : Except Fault Scanner :=
  if s.pending.any fun k => k.level == s.level && k.required then .error .malformed
  else .ok { s with pending := s.pending.filter fun k => k.level != s.level }

/-- Makes the current place a pending key, if a key may start here. -/
def saveKey (s : Scanner) : Except Fault Scanner :=
  if s.keyAllowed then do
    let s ← s.dropKey
    let key : PendingKey :=
      { level := s.level, position := s.tokens.length
        required := !s.inFlow && s.indent == s.cursor.column
        index := s.cursor.index, line := s.cursor.line, column := s.cursor.column }
    return { s with pending := s.pending ++ [key] }
  else .ok s

/-! ## The tokens -/

/-- A mark between documents. -/
def documentMark (s : Scanner) (t : Token) : Except Fault Scanner := do
  let s ← (s.unwind (-1)).dropKey
  return ({ s with keyAllowed := false }.skip 3).push t

/-- An opening bracket. -/
def openBracket (s : Scanner) (t : Token) : Except Fault Scanner := do
  let s ← s.saveKey
  return ({ s with level := s.level + 1, keyAllowed := true }.skip 1).push t

/-- A closing bracket. -/
def closeBracket (s : Scanner) (t : Token) : Except Fault Scanner := do
  let s ← s.dropKey
  if s.inFlow then
    return ({ s with level := s.level - 1, keyAllowed := false }.skip 1).push t
  else .error .malformed

/-- A comma inside brackets. -/
def comma (s : Scanner) : Except Fault Scanner := do
  let s ← s.dropKey
  return ({ s with keyAllowed := true }.skip 1).push .flowEntry

/-- Starts a block at the current column with its first mark; outside of brackets a key must be
allowed here. -/
def startHere (s : Scanner) (start : Token) : Except Fault Scanner :=
  if s.inFlow then .ok s
  else if s.keyAllowed then .ok (s.startBlock s.cursor.column s.tokens.length start)
  else .error .malformed

/-- The dash before an item. -/
def dash (s : Scanner) : Except Fault Scanner := do
  let s ← (← s.startHere .blockSequenceStart).dropKey
  return ({ s with keyAllowed := true }.skip 1).push .blockEntry

/-- The question mark before a key. -/
def questionMark (s : Scanner) : Except Fault Scanner := do
  let s ← (← s.startHere .blockMappingStart).dropKey
  return ({ s with keyAllowed := !s.inFlow }.skip 1).push .key

/-- The colon before a value.  It makes a pending key a key. -/
def colon (s : Scanner) : Except Fault Scanner :=
  match s.pending.find? fun k => k.level == s.level with
  | some key =>
    let announced : Scanner :=
      { s with
        pending := s.pending.filter fun k => k.level != s.level
        tokens := s.tokens.take key.position ++ .key :: s.tokens.drop key.position
        keyAllowed := false }
    let started :=
      if s.inFlow then announced
      else announced.startBlock key.column key.position .blockMappingStart
    .ok ((started.skip 1).push .value)
  | none => do
    let s ← (← s.startHere .blockMappingStart).dropKey
    return ({ s with keyAllowed := !s.inFlow }.skip 1).push .value

/-- A quoted scalar. -/
def quoted (s : Scanner) (double : Bool) : Except Fault Scanner := do
  let s ← s.saveKey
  let (codes, n) ← quotedText double (s.cursor.rest.length + 1) s.cursor.tail
  return ({ s with keyAllowed := false }.skip (n + 1)).push (.quoted (.ofCodes codes))

/-- A plain scalar. -/
def plain (s : Scanner) : Except Fault Scanner := do
  let s ← s.saveKey
  let (text, cursor, newLine) :=
    plainText? s.inFlow (s.indent + 1) (s.cursor.rest.length + 1) s.cursor
  return { s with cursor, keyAllowed := newLine }.push (.plain (String.ofList text))

/-- Whether a plain scalar can start with a character that the given text follows. -/
def startsPlain (s : Scanner) (c : Char) (rest : List Char) : Bool :=
  !(isWhite c || Style.startsWithIndicator [c]) ||
    (!endsWord rest && (c == '-' || (!s.inFlow && (c == '?' || c == ':'))))

/-- Reads the token that starts with a character, which the given text follows. -/
def token (s : Scanner) (c : Char) (rest : List Char) : Except Fault Scanner :=
  let markAhead := s.cursor.column == 0 && atSeparator (c :: rest)
  let alone := s.inFlow || endsWord rest
  if markAhead && c == '-' then s.documentMark .documentStart
  else if markAhead then s.documentMark .documentEnd
  else if c == '[' then s.openBracket .flowSequenceStart
  else if c == '{' then s.openBracket .flowMappingStart
  else if c == ']' then s.closeBracket .flowSequenceEnd
  else if c == '}' then s.closeBracket .flowMappingEnd
  else if c == ',' then s.comma
  else if c == '-' && endsWord rest then s.dash
  else if c == '?' && alone then s.questionMark
  else if c == ':' && alone then s.colon
  else if c == '\'' then s.quoted false
  else if c == '"' then s.quoted true
  else if s.startsPlain c rest then s.plain
  else .error .malformed

/-- Goes to the next token.  Outside of brackets a key may start on a new line. -/
def crossGap (s : Scanner) : Scanner :=
  let cursor := s.cursor.skip (gapLength false s.cursor.rest)
  { s with cursor, keyAllowed := s.keyAllowed || (!s.inFlow && cursor.line != s.cursor.line) }

/-- Reads the next token.  At the end of the text the blocks end. -/
def advance (s : Scanner) : Except Fault Scanner := do
  let s ← s.crossGap.dropStale
  let s := s.unwind s.cursor.column
  match s.cursor.rest with
  | [] => (s.unwind (-1)).dropKey
  | c :: rest => s.token c rest

/-- Whether no token is left. -/
def atEnd (s : Scanner) : Bool :=
  s.crossGap.cursor.rest.isEmpty

/-- Reads all tokens.  The first argument bounds their number. -/
def scan : Nat → Scanner → Except Interruption (List Token)
  | 0, s => .error ⟨s.settled, .malformed⟩
  | fuel + 1, s =>
    match s.advance with
    | .error fault => .error ⟨s.settled, fault⟩
    | .ok next => if s.atEnd then .ok next.tokens else scan fuel next

end Scanner

/-- Reads a text into tokens.  A byte-order mark at its start does not count. -/
def tokensOf (text : String) : Except Interruption (List Token) :=
  let cs := text.toList
  let start : Cursor := { rest := cs }
  if cs.all isLegal then
    let cursor := if start.peek = some '\ufeff' then start.next else start
    Scanner.scan (cs.length + 1) { cursor }
  else .error ⟨[], .malformed⟩

end PrintSpec.Yaml
