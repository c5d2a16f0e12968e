import PrintSpec.Session

/-!
# The command line

Reads the arguments and the environment and carries out the plan of a run.  The engine itself is
started by the calling shell: where the plan launches a command, its command line is printed for
the shell to evaluate.
-/

namespace PrintSpec

/-- The environment variables that a run reads. -/
def settingNames : List String :=
  ["FIELDPRINT_DEBUG", "FIELDPRINT_DEBUG_FORMAT", "FIELDPRINT_AWK", "FIELDPRINT_DRY_RUN"]

/-- Carries out a plan and gives the exit status. -/
def perform (plan : Plan) : IO UInt32 := do
  (← IO.getStderr).putStr plan.stderr
  IO.print plan.stdout
  match plan.step with
  | .exit status => return status.toNat.toUInt32
  | .launch command =>
    IO.println (Shell.commandLine command)
    return 0

end PrintSpec

/-- The entry point. -/
def main (args : List String) : IO UInt32 := do
  let values ← PrintSpec.settingNames.mapM fun name => return (name, ← IO.getEnv name)
  let env : PrintSpec.Environment := fun name => (values.lookup name).join
  match PrintSpec.Plan.ofArguments env args with
  | .ok plan => PrintSpec.perform plan
  | .error e =>
    (← IO.getStderr).putStrLn e.message
    return 1
