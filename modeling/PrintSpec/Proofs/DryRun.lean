import Mathlib.Logic.Function.Basic
import PrintSpec.Proofs.Console
import PrintSpec.Proofs.Outcome
import PrintSpec.Proofs.ShellWords

/-!
# A dry run shows the command

A dry run writes the command that it would launch to the standard output, quoted for a shell.  The
line goes through the console on its way, and the console changes texts: it drops five control
characters and makes spaces of a tab, also where they stand between quotes.  So a shell reads the
line back as the command exactly if no word of the command holds one of these six characters.
-/

namespace PrintSpec

open PrintSpec.Awk

/-! ## The line of a command -/

/-- **The shown line of a command is read back exactly if the console keeps its words.** -/
lemma words?_line_commandLine_iff (command : List String) :
    Shell.words? (Console.line (Shell.commandLine command)) = some command ↔
      ∀ w ∈ command, ∀ c ∈ w.toList, Console.Keeps c := by
  constructor
  · intro h w hw c hc
    have hmem := Shell.mem_of_words? h w hw c hc
    rw [Console.line, String.toList_append, List.mem_append] at hmem
    rcases hmem with hmem | hmem
    · exact Console.keeps_of_mem_shown c hmem
    · obtain rfl : c = '\n' := by simpa using hmem
      exact ⟨by decide, by decide⟩
  · intro h
    have hline : ∀ c ∈ (Shell.commandLine command).toList, Console.Keeps c := by
      intro c hc
      rcases Shell.mem_commandLine hc with rfl | rfl | rfl | ⟨w, hw, hc⟩
      · exact Console.keeps_space
      · exact ⟨by decide, by decide⟩
      · exact ⟨by decide, by decide⟩
      · exact h w hw c hc
    rw [Console.line, Console.shown_of_keeps hline]
    exact Shell.words?_commandLine command

/-! ## The two runs -/

/-- An environment in which the variable for a dry run has a value, or none. -/
def Environment.withDryRun (env : Environment) (value : Option String) : Environment :=
  Function.update env "FIELDPRINT_DRY_RUN" value

lemma engine_withDryRun (env : Environment) (value : Option String) :
    (Settings.ofEnvironment (env.withDryRun value)).engine = (Settings.ofEnvironment env).engine := by
  simp [Settings.ofEnvironment, Environment.withDryRun, Function.update]

lemma dryRun_withDryRun (env : Environment) (value : Option String) :
    (Settings.ofEnvironment (env.withDryRun value)).dryRun = Settings.isOn (value.getD "") := by
  simp [Settings.ofEnvironment, Environment.withDryRun, Function.update]

lemma launched_of_outcome {launch : List String → Engine.Launch} {plan : Plan}
    {words : List String} (hstep : plan.step = .launch words) {o : Outcome}
    (ho : plan.outcome launch = .ok o) : o.launched = [words] := by
  rw [Plan.outcome, hstep] at ho
  simp only at ho
  split at ho
  · cases ho
    rfl
  · cases ho
    rfl
  · cases ho

/-- A run that launches a command has a program, and the command is the one for it. -/
lemma exists_program_of_launched {env : Environment} {launch : List String → Engine.Launch}
    {args command : List String} {o : Outcome} (hrun : run env launch args = .ok o)
    (hcommand : command ∈ o.launched) :
    args ≠ [] ∧ ∃ groups program, Group.ofArguments (Arguments.split args).spec = .ok groups ∧
      Program.ofGroups groups = .ok program ∧
        Plan.command (Settings.ofEnvironment env).engine (Arguments.split args).engine
          program.render = command := by
  by_cases hargs : args = []
  · subst hargs
    cases hrun
    simp at hcommand
  refine ⟨hargs, ?_⟩
  cases hgroups : Group.ofArguments (Arguments.split args).spec with
  | error e =>
    rw [run_of_unreadable launch hargs hgroups] at hrun
    cases hrun
  | ok groups =>
    cases hprogram : Program.ofGroups groups with
    | error e =>
      rw [run_of_invalid launch hargs hgroups hprogram] at hrun
      cases hrun
      simp at hcommand
    | ok program =>
      refine ⟨groups, program, rfl, hprogram, ?_⟩
      obtain ⟨stderr, hall⟩ := run_of_program env hargs hgroups hprogram rfl
      rw [hall launch] at hrun
      split at hrun
      · cases hrun
        simp at hcommand
      · generalize hplan : Plan.outcome launch _ = result at hrun
        cases result with
        | error e => cases hrun
        | ok o' =>
          cases hrun
          rw [launched_of_outcome rfl hplan, List.mem_singleton] at hcommand
          exact hcommand.symm

/-- A dry run shows the line of the command that a program gives, whatever the engine would do. -/
lemma dryRun_of_program (env : Environment) {args : List String} (hargs : args ≠ [])
    {groups : List Group} (hgroups : Group.ofArguments (Arguments.split args).spec = .ok groups)
    {program : Program} (hprogram : Program.ofGroups groups = .ok program) {command : List String}
    (hcommand : Plan.command (Settings.ofEnvironment env).engine (Arguments.split args).engine
      program.render = command) :
    ∃ stderr, ∀ launch, run (env.withDryRun (some "1")) launch args = .ok
      { status := 0, stdout := Console.line (Shell.commandLine command), stderr } := by
  rw [← engine_withDryRun env (some "1")] at hcommand
  obtain ⟨stderr, hall⟩ := run_of_program _ hargs hgroups hprogram hcommand
  have hon : Settings.isOn ((some "1").getD "") = true := by decide
  refine ⟨stderr, fun launch => ?_⟩
  rw [hall launch, dryRun_withDryRun, if_pos hon]

/-- A run with a program that is no dry run launches the command that the program gives. -/
lemma exists_launched_of_program (env : Environment) {args : List String} (hargs : args ≠ [])
    {groups : List Group} (hgroups : Group.ofArguments (Arguments.split args).spec = .ok groups)
    {program : Program} (hprogram : Program.ofGroups groups = .ok program) {command : List String}
    (hcommand : Plan.command (Settings.ofEnvironment env).engine (Arguments.split args).engine
      program.render = command) :
    ∃ o, run (env.withDryRun none) (fun _ => .exited 0) args = .ok o ∧ command ∈ o.launched := by
  rw [← engine_withDryRun env none] at hcommand
  obtain ⟨stderr, hall⟩ := run_of_program _ hargs hgroups hprogram hcommand
  have hoff : ¬Settings.isOn (none.getD "") = true := by decide
  refine ⟨{ status := 0, stderr, launched := [command] }, ?_, List.mem_cons_self⟩
  rw [hall, dryRun_withDryRun, if_neg hoff, ← hcommand]
  rfl

/-- **A dry run shows the command that a run would launch.**  If a run without the variable launches a
command, then the dry run ends with status zero and launches nothing, whatever the engine would do,
and a shell reads its output back as the command exactly if the console keeps every character of the
command's words. -/
theorem dry_run_shows_command_iff_kept (env : Environment) (launch : List String → Engine.Launch)
    (args command : List String) (o : Outcome)
    (hrun : run (env.withDryRun none) launch args = .ok o) (hcommand : command ∈ o.launched) :
    ∃ stdout stderr,
      (∀ launch', run (env.withDryRun (some "1")) launch' args = .ok
        { status := 0, stdout, stderr, launched := [] }) ∧
      (Shell.words? stdout = some command ↔
        ∀ w ∈ command, ∀ c ∈ w.toList, c ≠ '\t' ∧ Console.isDropped c = false) := by
  obtain ⟨hargs, groups, program, hgroups, hprogram, hwords⟩ :=
    exists_program_of_launched hrun hcommand
  rw [engine_withDryRun] at hwords
  obtain ⟨stderr, hdry⟩ := dryRun_of_program env hargs hgroups hprogram hwords
  exact ⟨_, stderr, hdry, words?_line_commandLine_iff command⟩

/-- An option with a quote, and a literal text with a line feed and a quote of the other kind. -/
theorem dry_run_shows_command_with_quotes :
    ∃ program o stdout stderr,
      run (Environment.withDryRun (fun _ => none) none) (fun _ => .exited 0) ["-F'", "a\"\n"] =
        .ok o ∧ ["awk", "-F'", program] ∈ o.launched ∧
      run (Environment.withDryRun (fun _ => none) (some "1")) (fun _ => .exited 0)
        ["-F'", "a\"\n"] = .ok { status := 0, stdout, stderr, launched := [] } ∧
      Shell.words? stdout = some ["awk", "-F'", program] := by
  have hsplit : Arguments.split ["-F'", "a\"\n"] = ⟨["-F'"], ["a\"\n"]⟩ := by decide
  have hgroups : Group.ofArguments (Arguments.split ["-F'", "a\"\n"]).spec =
      .ok [⟨"a\"\n", [⟨"a\"\n", .plain "a\"\n"⟩]⟩] := by
    rw [hsplit]
    cbv
  have hkept : ∀ w ∈ ["awk", "-F'", ({ groups := [["\"a\\\"\\n\""]] } : Program).render],
      ∀ c ∈ w.toList, c ≠ '\t' ∧ Console.isDropped c = false := by
    have hbytes : ∀ w ∈ ["awk", "-F'", ({ groups := [["\"a\\\"\\n\""]] } : Program).render],
        (w.toByteArray.data.toList.all fun b => !Console.isLostByte b) = true := by
      decide +kernel
    exact fun w hw => Console.keeps_of_bytes (hbytes w hw)
  have hcommand : Plan.command (Settings.ofEnvironment fun _ => none).engine
      (Arguments.split ["-F'", "a\"\n"]).engine
        ({ groups := [["\"a\\\"\\n\""]] } : Program).render =
      ["awk", "-F'", ({ groups := [["\"a\\\"\\n\""]] } : Program).render] := by
    rw [hsplit]
    rfl
  obtain ⟨o, hrun, hlaunched⟩ := exists_launched_of_program _ (List.cons_ne_nil _ _) hgroups rfl
    hcommand
  obtain ⟨stdout, stderr, hdry, hwords⟩ :=
    dry_run_shows_command_iff_kept _ _ _ _ o hrun hlaunched
  exact ⟨_, o, stdout, stderr, hrun, hlaunched, hdry _, hwords.mpr hkept⟩

/-- A tab as the field separator: the command would be launched with it, but the dry run shows spaces
in its place. -/
theorem dry_run_shows_spaces_for_tab :
    ∃ program o stdout stderr,
      run (Environment.withDryRun (fun _ => none) none) (fun _ => .exited 0) ["-F\t", "1"] =
        .ok o ∧ ["awk", "-F\t", program] ∈ o.launched ∧
      run (Environment.withDryRun (fun _ => none) (some "1")) (fun _ => .exited 0) ["-F\t", "1"] =
        .ok { status := 0, stdout, stderr, launched := [] } ∧
      Shell.words? stdout ≠ some ["awk", "-F\t", program] := by
  have hsplit : Arguments.split ["-F\t", "1"] = ⟨["-F\t"], ["1"]⟩ := by decide
  have hgroups : Group.ofArguments (Arguments.split ["-F\t", "1"]).spec =
      .ok [⟨"1", [⟨"1", .field 1⟩]⟩] := by
    rw [hsplit]
    cbv
  have hcommand : Plan.command (Settings.ofEnvironment fun _ => none).engine
      (Arguments.split ["-F\t", "1"]).engine ({ groups := [["$1"]] } : Program).render =
      ["awk", "-F\t", ({ groups := [["$1"]] } : Program).render] := by
    rw [hsplit]
    rfl
  obtain ⟨o, hrun, hlaunched⟩ := exists_launched_of_program _ (List.cons_ne_nil _ _) hgroups rfl
    hcommand
  obtain ⟨stderr, hdry⟩ := dryRun_of_program _ (List.cons_ne_nil _ _) hgroups rfl hcommand
  refine ⟨_, o, _, stderr, hrun, hlaunched, hdry _, ?_⟩
  rw [ne_eq, words?_line_commandLine_iff]
  intro hkept
  exact (hkept "-F\t" (by simp) '\t' (by simp)).1 rfl

end PrintSpec
