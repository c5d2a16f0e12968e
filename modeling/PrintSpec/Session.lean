import PrintSpec.Arguments
import PrintSpec.Console
import PrintSpec.Dump
import PrintSpec.Engine
import PrintSpec.Shell
import PrintSpec.Token.Scan

/-!
# A run of the command

A run first makes a plan: what it shows, and then whether it ends at once or launches the engine
with a command.  `Plan.outcome` carries the plan out, given how a launch goes, so that the plan
itself is a plain function of the arguments and the environment.
-/

namespace PrintSpec

open PrintSpec.Awk

/-- The name under which the command reports. -/
def commandName : String := "p"

/-- The help for a run without arguments. -/
def usage : String :=
  "usage: p [awk-options...] [--] print-spec...\n" ++
  "\n" ++
  "Print specification tokens (one argument = one output column):\n" ++
  "  N, -N          field N; -N counts from the end (-1 is the last field)\n" ++
  "  %N, %\x7bN\x7d       field N, usable inside words (2%1 -> \"ba\")\n" ++
  "  %\x7bA:B\x7d         fields A..B joined by OFS; A or B may be negative or omitted\n" ++
  "  @N, @\x7btext\x7d    literal text\n" ++
  "  @@, %%         literal @ and %\n" ++
  "  anything else  printed as is\n" ++
  "\n" ++
  "OFS is set to FS, so \"-F .\" keeps dots between columns. An option whose\n" ++
  "value is a separate argument needs \"--\" before the print specification.\n" ++
  "\n" ++
  "Environment: FIELDPRINT_DEBUG=tokens|program|1, FIELDPRINT_DEBUG_FORMAT=yaml|json,\n" ++
  "FIELDPRINT_AWK=<binary>, FIELDPRINT_DRY_RUN=1\n"

/-- The exit status of a run without arguments. -/
def usageStatus : Int := 2

/-- The exit status of a run with an invalid specification. -/
def syntaxStatus : Int := 2

/-- The exit status of a run whose engine cannot be started. -/
def launchStatus : Int := 127

/-- How a run goes on after it has shown what there is to show. -/
inductive Step where
  | exit (status : Int)
  | launch (command : List String)
  deriving DecidableEq, Repr

/-- What a run does. -/
structure Plan where
  stdout : String := ""
  stderr : String := ""
  step : Step
  deriving DecidableEq, Repr

/-- What a run has done. -/
structure Outcome where
  status : Int
  stdout : String := ""
  stderr : String := ""
  /-- The commands that were launched, in order. -/
  launched : List (List String) := []
  deriving DecidableEq, Repr

/-- A line of the command's own. -/
def ownLine (text : String) : String :=
  Console.line (commandName ++ ": " ++ text)

namespace Plan

/-- The command that runs a program with some options. -/
def command (engine : String) (options : List String) (program : String) : List String :=
  engine :: options ++ [program]

/-- The dump of the tokens, if it is asked for. -/
def tokenReport (settings : Settings) (groups : List Group) : String :=
  if settings.showTokens then
    ownLine "tokens" ++ Console.line (Dump.render settings.format (groups.map Group.toRecord))
  else ""

/-- The program and the command, if they are asked for. -/
def programReport (settings : Settings) (program : String) (command : List String) : String :=
  if settings.showProgram then
    ownLine "program" ++ Console.shown program ++
      ownLine "command" ++ Console.line (Shell.commandLine command)
  else ""

/-- The plan for token groups. -/
def ofGroups (settings : Settings) (options : List String) (groups : List Group) : Plan :=
  let tokens := tokenReport settings groups
  match Program.ofGroups groups with
  | .error e => { stderr := tokens ++ ownLine e.message, step := .exit syntaxStatus }
  | .ok program =>
    let words := command settings.engine options program.render
    let stderr := tokens ++ programReport settings program.render words
    if settings.dryRun then
      { stdout := Console.line (Shell.commandLine words), stderr, step := .exit 0 }
    else { stderr, step := .launch words }

/-- The plan of a run.  It fails only on a number that is too long to be read. -/
def ofArguments (env : Environment) (args : List String) : Except Numeral.Error Plan :=
  if args.isEmpty then
    .ok { stderr := Console.shown usage, step := .exit usageStatus }
  else
    let parts := Arguments.split args
    (Group.ofArguments parts.spec).map
      (ofGroups (Settings.ofEnvironment env) parts.engine)

/-- Carries a plan out, where `launch` tells how the launch of a command goes.  A refused launch is
reported; any other failure of it ends the run without an outcome. -/
def outcome (launch : List String → Engine.Launch) (plan : Plan) :
    Except Engine.LaunchError Outcome :=
  match plan.step with
  | .exit status => .ok { status, stdout := plan.stdout, stderr := plan.stderr }
  | .launch command =>
    match Engine.status command (launch command) with
    | .ok status =>
      .ok { status, stdout := plan.stdout, stderr := plan.stderr, launched := [command] }
    | .error (.refused engine why) =>
      let report := ownLine (Engine.LaunchError.refused engine why).message
      .ok { status := launchStatus, stdout := plan.stdout, stderr := plan.stderr ++ report
            launched := [command] }
    | .error e => .error e

end Plan

/-- Why a run has no outcome. -/
inductive RunError where
  /-- A number in the arguments is too long to be read. -/
  | numeral (e : Numeral.Error)
  /-- The launch failed in a way that is not reported. -/
  | launch (e : Engine.LaunchError)

/-- The wording of each cause. -/
def RunError.message : RunError → String
  | .numeral e => e.message
  | .launch e => e.message

/-- A whole run of the command. -/
def run (env : Environment) (launch : List String → Engine.Launch) (args : List String) :
    Except RunError Outcome := do
  let plan ← (Plan.ofArguments env args).mapError .numeral
  (plan.outcome launch).mapError .launch

end PrintSpec
