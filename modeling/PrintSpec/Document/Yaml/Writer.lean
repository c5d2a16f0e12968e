import PrintSpec.Document.Yaml.Scalar

/-!
# Writing documents

A document is written as nested blocks: a dash before every item of a list, a key and a colon
before every value of a mapping.  Blocks are indented by two, except that a list under a key
starts at the column of the key.  Empty lists and mappings are written in brackets.
-/

namespace PrintSpec.Yaml

/-- The depth by which a block is indented. -/
def indentStep : Nat := 2

mutual

/-- A value after the dash or colon that introduces it, up to the end of its last line.  `indent`
belongs to the block that holds the value, `column` is where the line goes on, and `inList` says
whether that block is a list. -/
def writeValue (indent column : Nat) (inList : Bool) : Value → List Char
  | .scalar s => ' ' :: scalarText (indent + indentStep) (column + 1) s ++ ['\n']
  | .list [] => " []\n".toList
  | .map [] => " \x7b\x7d\n".toList
  | .list (v :: vs) =>
    if inList then ' ' :: writeItems (indent + indentStep) true (v :: vs)
    else '\n' :: writeItems indent false (v :: vs)
  | .map (e :: es) =>
    if inList then ' ' :: writeEntries (indent + indentStep) true (e :: es)
    else '\n' :: writeEntries (indent + indentStep) false (e :: es)

/-- The items of a list.  `inline` says whether the first one goes on a line already begun. -/
def writeItems (indent : Nat) (inline : Bool) : List Value → List Char
  | [] => []
  | v :: vs =>
    (if inline then [] else List.replicate indent ' ') ++
      '-' :: writeValue indent (indent + 1) true v ++ writeItems indent false vs

/-- The entries of a mapping.  `inline` says whether the first one goes on a line already
begun. -/
def writeEntries (indent : Nat) (inline : Bool) : List (Scalar × Value) → List Char
  | [] => []
  | (k, v) :: es =>
    (if inline then [] else List.replicate indent ' ') ++
      keyText k ++ ':' :: writeValue indent (indent + (keyText k).length + 1) false v ++
      writeEntries indent false es

end

/-- A document that is a list. -/
def render (items : List Value) : String :=
  match items with
  | [] => "[]\n"
  | _ => String.ofList (writeItems 0 false items)

end PrintSpec.Yaml
