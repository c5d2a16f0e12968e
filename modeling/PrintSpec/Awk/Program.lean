import PrintSpec.Awk.Fragment

/-!
# The awk program

A program is a prelude, which defines the helper functions and lets the output separator follow
the input separator, and one action that prints one expression for each argument.  The fragments
of an argument stand side by side, which awk reads as concatenation; between arguments awk puts
its output separator.
-/

namespace PrintSpec.Awk

/-- Lets the output separator follow the input separator unless it was set. -/
def followSeparator : Stmt :=
  .ifThen (.equal (.name "OFS") (.text " ")) (.assign "OFS" (.name "FS"))

/-- The text before the main action of every program. -/
def prelude : String :=
  "\n".intercalate
    ["BEGIN \x7b " ++ followSeparator.render ++ " \x7d", fieldFromEnd.render, joinRange.render]

/-- The awk literal of the empty text. -/
def emptyLiteral : String := "\"\""

/-- A compiled print specification. -/
structure Program where
  prelude : String := Awk.prelude
  /-- The awk expressions of every argument. -/
  groups : List (List String) := []
  deriving DecidableEq, Repr

namespace Program

/-- The expression of one argument; an argument without fragments prints the empty text. -/
def expression (fragments : List String) : String :=
  if fragments.isEmpty then emptyLiteral else " ".intercalate fragments

/-- Adds the empty literal to the last of some expressions, and alone makes it the only one. -/
def closeLast : List String → List String
  | [] => [emptyLiteral]
  | [e] => [e ++ " " ++ emptyLiteral]
  | e :: f :: rest => e :: closeLast (f :: rest)

/-- The expressions of the print action.  The empty literal at the end keeps the action from
being a bare `print`, which would print the whole record. -/
def printArguments (p : Program) : List String :=
  closeLast (p.groups.map expression)

/-- The main action. -/
def action (p : Program) : String :=
  "\x7b print " ++ ", ".intercalate p.printArguments ++ " \x7d"

/-- The program as awk text. -/
def render (p : Program) : String :=
  p.prelude ++ "\n" ++ p.action ++ "\n"

/-- Compiles token groups; the first invalid field ends it. -/
def ofGroups (groups : List Group) : Except InvalidField Program :=
  (groups.mapM compileGroup).map fun fragments => { groups := fragments }

end Program

end PrintSpec.Awk
