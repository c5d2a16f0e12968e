import PrintSpec.Proofs.Awk.Validity
import PrintSpec.Session

/-!
# Every run of the command takes one path

A run can go five ways.  `Takes` says when a run goes each of them, in terms of the arguments, the
environment and what the engine does, and `Path.Result` says what such a run leaves behind: its exit
status, its output and the commands it launched.

`run_takes_one_path` says that every run goes exactly one way, whatever the arguments, the settings
and the engine are.  The log of launched commands is not taken on trust there: a run depends on the
engine only through the commands in it, so a run that launches nothing is the same for every engine.
-/

namespace PrintSpec

open PrintSpec.Awk

/-! ## Paths -/

/-- The ways in which a run can go. -/
inductive Path where
  /-- There are no arguments. -/
  | usage
  /-- A number in the print specification is too long to be read. -/
  | unreadable (e : Numeral.Error)
  /-- The print specification has an invalid token. -/
  | invalid (e : InvalidField)
  /-- The command is shown in place of being launched. -/
  | dryRun (command : List String)
  /-- The command is launched, and the engine does something. -/
  | launch (command : List String) (how : Engine.Launch)

namespace Path

/-- The commands that are launched on a path. -/
def launched : Path → List (List String)
  | .launch command _ => [command]
  | _ => []

/-- What a run on a path leaves behind, where `engine` is the name of the engine.  Only a number that
cannot be read leaves no outcome. -/
def Result (engine : String) (path : Path) (result : Except RunError Outcome) : Prop :=
  match path with
  | .usage => ∃ stderr, result = .ok
      { status := 2, stdout := "", stderr, launched := path.launched }
  | .unreadable e => result = .error (.numeral e)
  | .invalid e => ∃ before, result = .ok
      { status := 2, stdout := "", launched := path.launched
        stderr := before ++ Console.line ("p: " ++ e.message) }
  | .dryRun command => ∃ stderr, result = .ok
      { status := 0, stdout := Console.line (Shell.commandLine command), stderr
        launched := path.launched }
  | .launch _ (.exited code) => ∃ stderr, result = .ok
      { status := if 0 ≤ code then code else 128 - code, stdout := "", stderr
        launched := path.launched }
  | .launch _ (.refused why) => ∃ before, result = .ok
      { status := 127, stdout := "", launched := path.launched
        stderr := before ++
          Console.line ("p: " ++ (Engine.LaunchError.refused engine why).message) }

end Path

/-- The print specification is readable, and `e` is about its first invalid token. -/
def Rejects (args : List String) (e : InvalidField) : Prop :=
  ∃ groups, Group.ofArguments (Arguments.split args).spec = .ok groups ∧ FirstInvalid groups e

/-- The print specification is readable and has no invalid token, and `command` is the engine, its
options and the program. -/
def Commands (env : Environment) (args command : List String) : Prop :=
  ∃ groups program, Group.ofArguments (Arguments.split args).spec = .ok groups ∧
    AllValid groups ∧ Program.ofGroups groups = .ok program ∧
      command = [(Settings.ofEnvironment env).engine] ++ (Arguments.split args).engine ++
        [program.render]

/-- When a run goes which way. -/
def Takes (env : Environment) (launch : List String → Engine.Launch) (args : List String) :
    Path → Prop
  | .usage => args = []
  | .unreadable e => args ≠ [] ∧ Group.ofArguments (Arguments.split args).spec = .error e
  | .invalid e => args ≠ [] ∧ Rejects args e
  | .dryRun command =>
    args ≠ [] ∧ Commands env args command ∧ (Settings.ofEnvironment env).dryRun = true
  | .launch command how =>
    args ≠ [] ∧ Commands env args command ∧ (Settings.ofEnvironment env).dryRun = false ∧
      launch command = how

/-! ## Which path is taken -/

section

variable {env : Environment} {launch : List String → Engine.Launch} {args : List String}
  {groups : List Group}

lemma takes_nil_iff {path : Path} : Takes env launch [] path ↔ .usage = path := by
  cases path <;> simp [Takes]

lemma takes_iff_of_unreadable (hargs : args ≠ []) {e : Numeral.Error}
    (hread : Group.ofArguments (Arguments.split args).spec = .error e) {path : Path} :
    Takes env launch args path ↔ .unreadable e = path := by
  cases path <;> simp [Takes, Rejects, Commands, hargs, hread]

lemma rejects_iff (hgroups : Group.ofArguments (Arguments.split args).spec = .ok groups)
    {e : InvalidField} : Rejects args e ↔ Program.ofGroups groups = .error e := by
  rw [ofGroups_eq_error_iff, Rejects]
  constructor
  · rintro ⟨groups', hgroups', h⟩
    cases hgroups.symm.trans hgroups'
    exact h
  · intro h
    exact ⟨groups, hgroups, h⟩

lemma commands_iff (hgroups : Group.ofArguments (Arguments.split args).spec = .ok groups)
    {command : List String} : Commands env args command ↔
      ∃ program, Program.ofGroups groups = .ok program ∧
        Plan.command (Settings.ofEnvironment env).engine (Arguments.split args).engine
          program.render = command := by
  constructor
  · rintro ⟨groups', program, hgroups', -, hprogram, hcommand⟩
    cases hgroups.symm.trans hgroups'
    exact ⟨program, hprogram, hcommand.symm⟩
  · rintro ⟨program, hprogram, rfl⟩
    exact ⟨groups, program, hgroups, exists_ofGroups_iff.mp ⟨program, hprogram⟩, hprogram, rfl⟩

lemma takes_iff_of_invalid (hargs : args ≠ [])
    (hgroups : Group.ofArguments (Arguments.split args).spec = .ok groups) {e : InvalidField}
    (he : Program.ofGroups groups = .error e) {path : Path} :
    Takes env launch args path ↔ .invalid e = path := by
  cases path <;> simp [Takes, rejects_iff hgroups, commands_iff hgroups, hargs, hgroups, he]

lemma takes_iff_of_program (hargs : args ≠ [])
    (hgroups : Group.ofArguments (Arguments.split args).spec = .ok groups) {program : Program}
    (hprogram : Program.ofGroups groups = .ok program) {command : List String}
    (hcommand : Plan.command (Settings.ofEnvironment env).engine (Arguments.split args).engine
      program.render = command) {path : Path} :
    Takes env launch args path ↔
      (if (Settings.ofEnvironment env).dryRun then .dryRun command
        else .launch command (launch command)) = path := by
  have hcommands : ∀ words, Commands env args words ↔ command = words := by
    intro words
    simp [commands_iff hgroups, hprogram, hcommand]
  cases hdry : (Settings.ofEnvironment env).dryRun with
  | true =>
    cases path <;> simp [Takes, rejects_iff hgroups, hcommands, hargs, hgroups, hprogram, hdry]
  | false =>
    cases path with
    | launch words how =>
      simp only [Takes, ne_eq, hargs, not_false_eq_true, hcommands, hdry, true_and,
        Bool.false_eq_true, ↓reduceIte, Path.launch.injEq]
      refine and_congr_right fun hwords => ?_
      rw [hwords]
    | _ => simp [Takes, rejects_iff hgroups, hcommands, hargs, hgroups, hprogram, hdry]

/-! ## What a run leaves behind -/

lemma ofArguments_of_groups (hargs : args ≠ [])
    (hgroups : Group.ofArguments (Arguments.split args).spec = .ok groups) :
    Plan.ofArguments env args = .ok
      (Plan.ofGroups (Settings.ofEnvironment env) (Arguments.split args).engine groups) := by
  have hempty : args.isEmpty = false := by simpa using hargs
  simp [Plan.ofArguments, hempty, hgroups, Except.map]

/-- A run with a readable specification carries out the plan for its groups. -/
lemma run_of_groups (launch : List String → Engine.Launch) (hargs : args ≠ [])
    (hgroups : Group.ofArguments (Arguments.split args).spec = .ok groups) :
    run env launch args = ((Plan.ofGroups (Settings.ofEnvironment env)
      (Arguments.split args).engine groups).outcome launch).mapError .launch := by
  rw [run, ofArguments_of_groups hargs hgroups]
  rfl

lemma run_of_unreadable (launch : List String → Engine.Launch) (hargs : args ≠ [])
    {e : Numeral.Error} (hread : Group.ofArguments (Arguments.split args).spec = .error e) :
    run env launch args = .error (.numeral e) := by
  have hempty : args.isEmpty = false := by simpa using hargs
  simp [run, Plan.ofArguments, hempty, hread, Except.map, Except.mapError, bind, Except.bind]

/-- A run with an invalid token ends with the report of it. -/
lemma run_of_invalid (launch : List String → Engine.Launch) (hargs : args ≠ [])
    (hgroups : Group.ofArguments (Arguments.split args).spec = .ok groups) {e : InvalidField}
    (he : Program.ofGroups groups = .error e) :
    run env launch args = .ok
      { status := syntaxStatus
        stderr := Plan.tokenReport (Settings.ofEnvironment env) groups ++ ownLine e.message } := by
  rw [run_of_groups launch hargs hgroups, Plan.ofGroups, he]
  rfl

/-- A run with a program shows its command or launches it, and what it reports before does not
depend on the engine. -/
lemma run_of_program (env : Environment) (hargs : args ≠ [])
    (hgroups : Group.ofArguments (Arguments.split args).spec = .ok groups) {program : Program}
    (hprogram : Program.ofGroups groups = .ok program) {command : List String}
    (hcommand : Plan.command (Settings.ofEnvironment env).engine (Arguments.split args).engine
      program.render = command) :
    ∃ stderr, ∀ launch, run env launch args =
      if (Settings.ofEnvironment env).dryRun then
        .ok { status := 0, stdout := Console.line (Shell.commandLine command), stderr }
      else (Plan.outcome launch { stderr, step := .launch command }).mapError .launch := by
  refine ⟨Plan.tokenReport (Settings.ofEnvironment env) groups ++
    Plan.programReport (Settings.ofEnvironment env) program.render command, fun launch => ?_⟩
  rw [run_of_groups launch hargs hgroups, Plan.ofGroups, hprogram]
  simp only [hcommand]
  split
  · rfl
  · rfl

/-- A launched command is logged, and its status is the one of the engine's ending. -/
lemma result_launch (engine : String) (words : List String) (stderr : String)
    (launch : List String → Engine.Launch) :
    (Path.launch (engine :: words) (launch (engine :: words))).Result engine
      ((Plan.outcome launch { stderr, step := .launch (engine :: words) }).mapError .launch) := by
  simp only [Plan.outcome]
  cases launch (engine :: words) with
  | exited code =>
    refine ⟨stderr, ?_⟩
    have hstatus : Engine.exitStatus code = if 0 ≤ code then code else 128 - code := by
      unfold Engine.exitStatus
      split <;> split <;> omega
    rw [← hstatus]
    rfl
  | refused why => exact ⟨stderr, rfl⟩

end

/-- **Every run takes exactly one path**, and leaves behind what belongs to it.  So a run never
launches two commands, launches nothing after an invalid token, and ends with no other path's
status. -/
theorem run_takes_one_path (env : Environment) (launch : List String → Engine.Launch)
    (args : List String) :
    (∃! path, Takes env launch args path) ∧ ∀ path, Takes env launch args path →
      path.Result (Settings.ofEnvironment env).engine (run env launch args) ∧
        ∀ launch' : List String → Engine.Launch,
          (∀ command ∈ path.launched, launch' command = launch command) →
            run env launch' args = run env launch args := by
  suffices hpath : ∃ path : Path, (∀ p, Takes env launch args p ↔ path = p) ∧
      path.Result (Settings.ofEnvironment env).engine (run env launch args) ∧
        ∀ launch' : List String → Engine.Launch,
          (∀ command ∈ path.launched, launch' command = launch command) →
            run env launch' args = run env launch args by
    obtain ⟨path, htakes, hresult⟩ := hpath
    refine ⟨⟨path, (htakes path).mpr rfl, fun p hp => ((htakes p).mp hp).symm⟩, ?_⟩
    intro p hp
    rw [← (htakes p).mp hp]
    exact hresult
  by_cases hargs : args = []
  · subst hargs
    exact ⟨.usage, fun p => takes_nil_iff, ⟨Console.shown usage, rfl⟩, fun launch' _ => rfl⟩
  cases hgroups : Group.ofArguments (Arguments.split args).spec with
  | error e =>
    refine ⟨.unreadable e, fun p => takes_iff_of_unreadable hargs hgroups,
      run_of_unreadable launch hargs hgroups, fun launch' _ => ?_⟩
    rw [run_of_unreadable launch' hargs hgroups, run_of_unreadable launch hargs hgroups]
  | ok groups =>
    cases hprogram : Program.ofGroups groups with
    | error e =>
      refine ⟨.invalid e, fun p => takes_iff_of_invalid hargs hgroups hprogram,
        ⟨_, run_of_invalid launch hargs hgroups hprogram⟩, fun launch' _ => ?_⟩
      rw [run_of_invalid launch' hargs hgroups hprogram,
        run_of_invalid launch hargs hgroups hprogram]
    | ok program =>
      obtain ⟨stderr, hrun⟩ := run_of_program env hargs hgroups hprogram rfl
      refine ⟨_, fun p => takes_iff_of_program hargs hgroups hprogram rfl, ?_⟩
      -- the plan is the same for all engines, so only its last step can tell them apart
      simp only [hrun]
      split
      · exact ⟨⟨stderr, rfl⟩, fun launch' _ => rfl⟩
      · refine ⟨result_launch _ _ stderr launch, fun launch' hlaunch' => ?_⟩
        simp only [Plan.outcome, hlaunch' _ List.mem_cons_self]

/-- An engine that is ended by a signal: the command is launched once, and the status counts the
signal from 128. -/
theorem run_takes_launch_path_on_signal :
    ∃ program stderr, run (fun _ => none) (fun _ => .exited (-9)) ["-F:", "2"] = .ok
      { status := 137, stdout := "", stderr, launched := [["awk", "-F:", program]] } := by
  have hsettings : Settings.ofEnvironment (fun _ => none) = {} := rfl
  have hsplit : Arguments.split ["-F:", "2"] = ⟨["-F:"], ["2"]⟩ := by
    decide
  have hgroups : Group.ofArguments (Arguments.split ["-F:", "2"]).spec =
      .ok [⟨"2", [⟨"2", .field 2⟩]⟩] := by
    cbv
  have hcommands : Commands (fun _ => none) ["-F:", "2"]
      ["awk", "-F:", ({ groups := [["$2"]] } : Program).render] :=
    ⟨_, _, hgroups, by decide, rfl, by rw [hsettings, hsplit]; rfl⟩
  have htakes : Takes (fun _ => none) (fun _ => .exited (-9)) ["-F:", "2"]
      (.launch ["awk", "-F:", ({ groups := [["$2"]] } : Program).render] (.exited (-9))) :=
    ⟨by simp, hcommands, by rw [hsettings], rfl⟩
  obtain ⟨stderr, hrun⟩ := ((run_takes_one_path _ _ _).2 _ htakes).1
  exact ⟨_, stderr, hrun⟩

end PrintSpec
