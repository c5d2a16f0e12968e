import PrintSpec.Session

/-!
# The showcase

A tour of the tool: for each of a few command lines it shows the tokens and the program, and,
where an engine is at hand, what the engine makes of a sample record.
-/

namespace PrintSpec.Showcase

open PrintSpec.Text

/-- Why a tour breaks off. -/
inductive Error where
  | numeral (e : Numeral.Error)
  | invalidField (e : InvalidField)
  deriving BEq, Repr

/-- What a tour shows and which commands it launches. -/
structure Tour where
  text : String
  launched : List (List String) := []
  deriving DecidableEq, Repr

/-- The sample record of the tour. -/
def sample : String := "alpha beta gamma delta\n"

/-- The command lines of the tour. -/
def commandLines : List (List String) :=
  [["1", "3"],
   ["-1", "-2", "1"],
   ["%\x7b2:\x7d"],
   ["<%\x7b2:3\x7d>", "@\x7blast=\x7d%-1"],
   ["-v", "OFS=|", "--", "1", "%\x7b-2:\x7d"]]

/-- A line of eighty equal characters. -/
def rule (c : Char) : String :=
  String.ofList (List.replicate 80 c) ++ "\n"

/-- The opening of the tour. -/
def opening (sample : String) : String :=
  rule '=' ++ "FIELDPRINT DEMO\n" ++ "Input: " ++ quoted (trim sample) ++ "\n" ++ rule '='

/-- The end of the tour. -/
def closing : String :=
  "\n" ++ rule '=' ++ "Try it:\n" ++
  "  echo 'a b c' | p -1 %\x7b1:2\x7d\n" ++
  "  FIELDPRINT_DEBUG=1 p -F: -- 1 -1 < /etc/passwd\n" ++ rule '='

/-- One stop of the tour.  `answer` tells what the engine prints for a command; an engine without
a name counts as none. -/
def stop (engine : Option String) (answer : List String → String) (args : List String) :
    Except Error Tour := do
  let parts := Arguments.split args
  let groups ← (Group.ofArguments parts.spec).mapError .numeral
  let program ← (Awk.Program.ofGroups groups).mapError .invalidField
  let text :=
    "\nSPEC: " ++ " ".intercalate args ++ "\n" ++ rule '-' ++
      Dump.render .yaml (groups.map Group.toRecord) ++ "\n" ++ program.render ++ "\n"
  match engine.filter (· ≠ "") with
  | none => return { text }
  | some engine =>
    let command := Plan.command engine parts.engine program.render
    return {
      text := text ++ "Output: " ++ quoted (trimEnd (answer command)) ++ "\n"
      launched := [command] }

/-- The whole tour. -/
def tour (engine : Option String) (answer : List String → String) (sample : String)
    (commandLines : List (List String)) : Except Error Tour := do
  let stops ← commandLines.mapM (stop engine answer)
  return {
    text := opening sample ++ String.join (stops.map Tour.text) ++ closing
    launched := stops.flatMap Tour.launched }

end PrintSpec.Showcase
