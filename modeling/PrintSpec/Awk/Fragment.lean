import PrintSpec.Awk.Routine
import PrintSpec.Text.Quoted
import PrintSpec.Token.Basic

/-!
# Awk expressions for tokens

Every token becomes one awk expression, a fragment: a string literal, a field, or a call of one
of two helper functions.  The only token without a fragment is the braced specification that is
neither a number nor a range.

The operands of a fragment are kept as text, in which a token writes its numbers.
-/

namespace PrintSpec

/-- A braced specification that means nothing, and the argument in which it stands. -/
structure InvalidField where
  specifier : String
  /-- Empty if it is not known. -/
  argument : String := ""
  deriving DecidableEq, Repr

namespace InvalidField

/-- How the message begins, before the specification. -/
def opening : String := "invalid explicit field specifier: "

/-- How the message names the argument, given between quotes. -/
def place (quoted : String) : String :=
  " (in argument " ++ quoted ++ ")"

/-- Names the specification, and the argument where it tells more. -/
def message (e : InvalidField) : String :=
  opening ++ e.specifier ++
    if e.argument ≠ "" ∧ e.argument ≠ e.specifier then place (Text.quoted e.argument) else ""

end InvalidField

namespace Awk

/-- An awk expression that a token compiles to. -/
inductive Fragment where
  | text (meaning : String)
  | field (number : String)
  | fieldFromEnd (distance : String)
  | range (first last : String)
  deriving DecidableEq, Repr

namespace Fragment

/-- The awk text of a fragment. -/
def render : Fragment → String
  | .text meaning => quote meaning
  | .field number => "$" ++ number
  | .fieldFromEnd distance => Awk.fieldFromEnd.name ++ "(" ++ distance ++ ")"
  | .range first last => joinRange.name ++ "(" ++ first ++ ", " ++ last ++ ")"

/-- The awk text of a range end: an expression in the number of fields if it counts from the
end. -/
def operand (value : String) (fromEnd : Bool) : String :=
  if fromEnd then "NF - " ++ value ++ " + 1" else value

/-- The range end that stands for a missing first one. -/
def openFirst : String := "1"

/-- The range end that stands for a missing last one. -/
def openLast : String := "NF"

/-- The awk text of a range end that may be missing. -/
def boundOperand (bound : Option Bound) (missing : String) : String :=
  match bound with
  | none => missing
  | some b => operand (toString b.value) b.fromEnd

/-- The fragment of a token; none for a braced specification that means nothing. -/
def ofBody? : Body → Option Fragment
  | .sigil t | .number t | .block t | .plain t => some (.text t)
  | .field number => some (.field (toString number))
  | .fieldFromEnd distance => some (.fieldFromEnd (toString distance))
  | .range first last =>
    some (.range (boundOperand first openFirst) (boundOperand last openLast))
  | .invalid _ => none

end Fragment

/-- Compiles a token of an argument. -/
def compileToken (argument : String) (t : Token) : Except InvalidField String :=
  match Fragment.ofBody? t.body with
  | some f => .ok f.render
  | none => .error ⟨t.raw, argument⟩

/-- Compiles all tokens of a group, in order. -/
def compileGroup (g : Group) : Except InvalidField (List String) :=
  g.tokens.mapM (compileToken g.argument)

end Awk

end PrintSpec
