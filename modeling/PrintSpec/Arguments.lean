import PrintSpec.Text.Digit

/-!
# Splitting a command line

The arguments of the command are options for the engine, followed by the print specification.
The word `--` separates the two.  Where it is missing, the print specification begins at the
first argument that does not look like an option; a minus and digits is a field counted from the
end and never looks like one.
-/

namespace PrintSpec

open PrintSpec.Text

/-- A command line, split into its two sides. -/
structure Arguments where
  /-- The options that are handed to the engine as they are. -/
  engine : List String
  /-- The arguments of the print specification. -/
  spec : List String
  deriving DecidableEq, Repr

namespace Arguments

/-- The word that ends the engine's options. -/
def separator : String := "--"

/-- Whether a text is a minus followed by digits only, and at least one. -/
def isNegativeField (argument : String) : Bool :=
  match argument.toList with
  | '-' :: digits => !digits.isEmpty && digits.all isDigit
  | _ => false

/-- Whether an argument looks like an option of the engine. -/
def isOption (argument : String) : Bool :=
  argument.toList.head? == some '-' && !isNegativeField argument

/-- Splits a command line. -/
def split (args : List String) : Arguments :=
  if args.contains separator then
    ⟨args.takeWhile (· ≠ separator), (args.dropWhile (· ≠ separator)).drop 1⟩
  else
    ⟨args.takeWhile isOption, args.dropWhile isOption⟩

end Arguments

end PrintSpec
