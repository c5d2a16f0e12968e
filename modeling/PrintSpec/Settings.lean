import PrintSpec.Text.Blank
import PrintSpec.Text.LowerCase

/-!
# Settings

The settings of a run come from four environment variables.  Blanks around a value do not count,
and switches are read without regard to case.
-/

namespace PrintSpec

open PrintSpec.Text

/-- The values of the environment variables that are set. -/
abbrev Environment := String → Option String

/-- The format of the token dump. -/
inductive DumpFormat where
  | yaml
  | json
  deriving DecidableEq, Repr

/-- The name of a dump format. -/
def DumpFormat.name : DumpFormat → String
  | .yaml => "yaml"
  | .json => "json"

/-- The dump format with a name; any other name gives the default. -/
def DumpFormat.ofName (name : String) : DumpFormat :=
  if name = "json" then .json else .yaml

/-- The engine that runs where no other is named. -/
def defaultEngine : String := "awk"

/-- The settings of a run. -/
structure Settings where
  /-- The program that runs the compiled specification. -/
  engine : String := defaultEngine
  showTokens : Bool := false
  /-- Whether the program and the command are shown. -/
  showProgram : Bool := false
  format : DumpFormat := .yaml
  /-- Whether the command is shown in place of being run. -/
  dryRun : Bool := false
  deriving DecidableEq, Repr

namespace Settings

/-- The normal form of a switch: no blanks around it, lower case. -/
def normal (value : String) : String :=
  lower (trim value)

/-- The normal forms of a switch that is off. -/
def offValues : List String := ["", "0", "false", "no", "off"]

/-- Whether a switch is on. -/
def isOn (value : String) : Bool :=
  !offValues.contains (normal value)

/-- What a value of the debug variable shows: the tokens, and the program. -/
def debugParts (value : String) : Bool × Bool :=
  let value := normal value
  if value = "tokens" then (true, false)
  else if value = "program" then (false, true)
  else (isOn value, isOn value)

/-- The dump format that a value names. -/
def formatOf (value : String) : DumpFormat :=
  DumpFormat.ofName (normal value)

/-- The engine that a value names; an empty value gives the default. -/
def engineOf (value : String) : String :=
  let value := trim value
  if value = "" then defaultEngine else value

/-- The settings that an environment asks for. -/
def ofEnvironment (env : Environment) : Settings :=
  let parts := debugParts ((env "FIELDPRINT_DEBUG").getD "")
  { engine := engineOf ((env "FIELDPRINT_AWK").getD "")
    showTokens := parts.1
    showProgram := parts.2
    format := formatOf ((env "FIELDPRINT_DEBUG_FORMAT").getD "yaml")
    dryRun := isOn ((env "FIELDPRINT_DRY_RUN").getD "") }

end Settings

end PrintSpec
