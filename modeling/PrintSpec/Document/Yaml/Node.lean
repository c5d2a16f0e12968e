import PrintSpec.Document.Yaml.Token

/-!
# The tree of a document

The tokens of a document form a tree of scalars, sequences and mappings.  A value that is left
out is an empty plain scalar.  A text holds at most one document.  Where the tokens form no tree,
the error holds the tokens from the first one on that does not fit; it holds none where they end
too early.
-/

namespace PrintSpec.Yaml

/-- A part of a document. -/
inductive Node where
  | plain (text : String)
  | quoted (content : Scalar)
  | sequence (items : List Node)
  | mapping (entries : List (Node × Node))
  deriving Repr

namespace Node

/-- The value that is left out. -/
abbrev missing : Node := .plain ""

/-- Whether some tokens go on with one of a given sort. -/
def goesOn (sort : Token → Bool) (ts : List Token) : Bool :=
  ts.head?.any sort

/-- The tokens after the comma that has to stand before every item but the first; the closing
bracket needs none. -/
def afterComma (first : Bool) (close : Token) (ts : List Token) : Option (List Token) :=
  if first || ts.head? == some close then some ts
  else if ts.head? == some .flowEntry then some (ts.drop 1)
  else none

mutual

/-- Reads a node.  `block` says whether it may be a block, and `bare` whether it may be a list of
dashes that no block start announces.  The first argument bounds the depth of recursion. -/
def read (block bare : Bool) : Nat → List Token → Except (List Token) (Node × List Token)
  | 0, ts => .error ts
  | fuel + 1, ts =>
    match ts with
    | .plain text :: rest => .ok (.plain text, rest)
    | .quoted content :: rest => .ok (.quoted content, rest)
    | .flowSequenceStart :: rest =>
      (readFlowItems true fuel rest).map fun (items, rest) => (.sequence items, rest)
    | .flowMappingStart :: rest =>
      (readFlowEntries true fuel rest).map fun (entries, rest) => (.mapping entries, rest)
    | .blockSequenceStart :: rest =>
      if block then (readItems fuel rest).map fun (items, rest) => (.sequence items, rest)
      else .error ts
    | .blockMappingStart :: rest =>
      if block then (readEntries fuel rest).map fun (entries, rest) => (.mapping entries, rest)
      else .error ts
    | .blockEntry :: _ =>
      if bare then (readBareItems fuel ts).map fun (items, rest) => (.sequence items, rest)
      else .error ts
    | _ => .error ts

/-- Reads a node that is left out where one of the given tokens follows. -/
def readUnless (stop : Token → Bool) (block bare : Bool) :
    Nat → List Token → Except (List Token) (Node × List Token)
  | 0, ts => .error ts
  | fuel + 1, ts => if goesOn stop ts then .ok (missing, ts) else read block bare fuel ts

/-- Reads the items of a block up to its end. -/
def readItems : Nat → List Token → Except (List Token) (List Node × List Token)
  | 0, ts => .error ts
  | fuel + 1, ts =>
    match ts with
    | .blockEntry :: rest => do
      let (item, rest) ←
        readUnless (fun t => [.blockEntry, .blockEnd].contains t) true false fuel rest
      let (items, rest) ← readItems fuel rest
      return (item :: items, rest)
    | .blockEnd :: rest => .ok ([], rest)
    | _ => .error ts

/-- Reads items as long as there are dashes. -/
def readBareItems : Nat → List Token → Except (List Token) (List Node × List Token)
  | 0, ts => .error ts
  | fuel + 1, ts =>
    match ts with
    | .blockEntry :: rest => do
      let (item, rest) ←
        readUnless (fun t => [.blockEntry, .key, .value, .blockEnd].contains t) true false fuel rest
      let (items, rest) ← readBareItems fuel rest
      return (item :: items, rest)
    | _ => .ok ([], ts)

/-- Reads the entries of a block up to its end. -/
def readEntries : Nat → List Token → Except (List Token) (List (Node × Node) × List Token)
  | 0, ts => .error ts
  | fuel + 1, ts =>
    match ts with
    | .key :: rest => do
      let stop : Token → Bool := fun t => [.key, .value, .blockEnd].contains t
      let (key, rest) ← readUnless stop true true fuel rest
      let (value, rest) ← readValueAfterKey stop true fuel rest
      let (entries, rest) ← readEntries fuel rest
      return ((key, value) :: entries, rest)
    | .blockEnd :: rest => .ok ([], rest)
    | _ => .error ts

/-- Reads the value after a key, which may be left out together with its colon. -/
def readValueAfterKey (stop : Token → Bool) (block : Bool) :
    Nat → List Token → Except (List Token) (Node × List Token)
  | 0, ts => .error ts
  | fuel + 1, ts =>
    match ts with
    | .value :: rest => readUnless stop block block fuel rest
    | _ => .ok (missing, ts)

/-- Reads the items between square brackets up to the closing one.  A key among them makes a
mapping of one entry. -/
def readFlowItems (first : Bool) : Nat → List Token → Except (List Token) (List Node × List Token)
  | 0, ts => .error ts
  | fuel + 1, ts =>
    match afterComma first .flowSequenceEnd ts with
    | none => .error ts
    | some (.flowSequenceEnd :: rest) => .ok ([], rest)
    | some (.key :: rest) => do
      let (key, rest) ← readUnless
        (fun t => [.value, .flowEntry, .flowSequenceEnd].contains t) false false fuel rest
      let (value, rest) ← readValueAfterKey
        (fun t => [.flowEntry, .flowSequenceEnd].contains t) false fuel rest
      let (items, rest) ← readFlowItems false fuel rest
      return (.mapping [(key, value)] :: items, rest)
    | some ts => do
      let (item, rest) ← read false false fuel ts
      let (items, rest) ← readFlowItems false fuel rest
      return (item :: items, rest)

/-- Reads the entries between braces up to the closing one.  An item without a colon is a key
without a value. -/
def readFlowEntries (first : Bool) :
    Nat → List Token → Except (List Token) (List (Node × Node) × List Token)
  | 0, ts => .error ts
  | fuel + 1, ts =>
    match afterComma first .flowMappingEnd ts with
    | none => .error ts
    | some (.flowMappingEnd :: rest) => .ok ([], rest)
    | some (.key :: rest) => do
      let (key, rest) ← readUnless
        (fun t => [.value, .flowEntry, .flowMappingEnd].contains t) false false fuel rest
      let (value, rest) ← readValueAfterKey
        (fun t => [.flowEntry, .flowMappingEnd].contains t) false fuel rest
      let (entries, rest) ← readFlowEntries false fuel rest
      return ((key, value) :: entries, rest)
    | some ts => do
      let (key, rest) ← read false false fuel ts
      let (entries, rest) ← readFlowEntries false fuel rest
      return ((key, missing) :: entries, rest)

end

/-- The root of a document, if there is a document.  Only marks of its end may follow it. -/
def ofTokens (ts : List Token) : Except (List Token) (Option Node) := do
  let explicit := ts.head? == some .documentStart
  let body := if explicit then ts.drop 1 else ts
  if !explicit && body.isEmpty then return none
  let nextDocument : Token → Bool := fun t => [.documentStart, .documentEnd].contains t
  let (node, rest) ←
    if explicit && (body.isEmpty || goesOn nextDocument body) then .ok (missing, body)
    else read true false (3 * body.length + 3) body
  match rest.dropWhile (· == .documentEnd) with
  | [] => return some node
  | rest => .error rest

end Node

end PrintSpec.Yaml
