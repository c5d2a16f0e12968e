import PrintSpec.Proofs.Dump.Values
import PrintSpec.Proofs.Outcome

/-!
# Diagnostics do not interfere with a run

Two of the four environment variables ask for diagnostics: a dump of the tokens, in one of two
formats, and a dump of the program with its command.  The dumps are made between the stages of a
run, so that a failure of one, or a result that one changes, would be seen in the later stages.

Every run is compared with the run of the same environment without these two variables.
`run_eq_quiet` says that the dumps come before everything else on the error output and that the runs
are otherwise the same.  Two environments that agree on the other two variables have the same quiet
run, and so all observations apart from the error output agree.

Writing a dump is a total function here, where a number that is too long has no text.  That no dump
ever meets such a number is part of the statement.
-/

namespace PrintSpec

open PrintSpec.Awk

/-- What can be seen of an outcome apart from the error output. -/
def Outcome.visible (o : Outcome) : Int × String × List (List String) :=
  (o.status, o.stdout, o.launched)

/-- An outcome with a text in front of its error output. -/
def Outcome.after (before : String) (o : Outcome) : Outcome :=
  { o with stderr := before ++ o.stderr }

/-- Neither of the two dumps is asked for. -/
def Settings.Quiet (s : Settings) : Prop :=
  s.showTokens = false ∧ s.showProgram = false

/-- An environment without the variables that ask for diagnostics. -/
def Environment.quiet (env : Environment) : Environment :=
  fun name => if name = "FIELDPRINT_AWK" ∨ name = "FIELDPRINT_DRY_RUN" then env name else none

lemma quiet_eq_quiet {env env' : Environment}
    (hengine : env "FIELDPRINT_AWK" = env' "FIELDPRINT_AWK")
    (hdry : env "FIELDPRINT_DRY_RUN" = env' "FIELDPRINT_DRY_RUN") : env.quiet = env'.quiet := by
  funext name
  unfold Environment.quiet
  split
  · rename_i hname
    rcases hname with rfl | rfl
    · exact hengine
    · exact hdry
  · rfl

lemma settings_quiet (env : Environment) :
    Settings.ofEnvironment env.quiet =
      { engine := (Settings.ofEnvironment env).engine
        dryRun := (Settings.ofEnvironment env).dryRun } := by
  have hparts : Settings.debugParts "" = (false, false) := by decide
  have hformat : Settings.formatOf "yaml" = .yaml := by decide
  simp [Settings.ofEnvironment, Environment.quiet, hparts, hformat]

/-! ## Plans -/

lemma outcome_after (launch : List String → Engine.Launch) (before : String) (plan : Plan) :
    Plan.outcome launch { plan with stderr := before ++ plan.stderr } =
      (plan.outcome launch).map (Outcome.after before) := by
  obtain ⟨stdout, stderr, step⟩ := plan
  cases step with
  | exit status => rfl
  | launch command =>
    simp only [Plan.outcome]
    cases Engine.status command (launch command) with
    | ok status => rfl
    | error e =>
      cases e with
      | refused engine why => simp [Except.map, Outcome.after, String.append_assoc]
      | noEngine => rfl

/-- The dumps that a run makes for its groups, before it goes on. -/
def dumps (settings : Settings) (options : List String) (groups : List Group) : String :=
  Plan.tokenReport settings groups ++
    match Program.ofGroups groups with
    | .ok program =>
      Plan.programReport settings program.render
        (Plan.command settings.engine options program.render)
    | .error _ => ""

lemma dumps_of_quiet {settings : Settings} (h : settings.Quiet) (options : List String)
    (groups : List Group) : dumps settings options groups = "" := by
  unfold dumps
  cases Program.ofGroups groups with
  | ok program => simp [Plan.tokenReport, Plan.programReport, h.1, h.2]
  | error e => simp [Plan.tokenReport, h.1]

/-- The plan under any settings is the plan of a quiet run with the dumps in front. -/
lemma ofGroups_eq_dumps (settings : Settings) (options : List String) (groups : List Group) :
    Plan.ofGroups settings options groups =
      let quiet := Plan.ofGroups { engine := settings.engine, dryRun := settings.dryRun }
        options groups
      { quiet with stderr := dumps settings options groups ++ quiet.stderr } := by
  cases hprogram : Program.ofGroups groups with
  | error e => simp [Plan.ofGroups, dumps, hprogram, Plan.tokenReport]
  | ok program =>
    cases hdry : settings.dryRun <;>
      simp [Plan.ofGroups, dumps, hprogram, hdry, Plan.tokenReport, Plan.programReport]

/-! ## Runs -/

lemma run_nil (env : Environment) (launch : List String → Engine.Launch) :
    run env launch [] = .ok { status := usageStatus, stderr := Console.shown usage } := rfl

lemma map_after_empty (result : Except RunError Outcome) :
    result.map (Outcome.after "") = result := by
  cases result <;> simp [Except.map, Outcome.after]

/-- **A run is the quiet run with its dumps in front of the error output.** -/
lemma run_eq_quiet (env : Environment) (launch : List String → Engine.Launch) (args : List String) :
    ∃ before, ((Settings.ofEnvironment env).Quiet → before = "") ∧
      run env launch args = (run env.quiet launch args).map (Outcome.after before) := by
  by_cases hargs : args = []
  · subst hargs
    exact ⟨"", fun _ => rfl, by rw [run_nil, run_nil, map_after_empty]⟩
  cases hgroups : Group.ofArguments (Arguments.split args).spec with
  | error e =>
    refine ⟨"", fun _ => rfl, ?_⟩
    rw [run_of_unreadable launch hargs hgroups, run_of_unreadable launch hargs hgroups,
      map_after_empty]
  | ok groups =>
    refine ⟨dumps (Settings.ofEnvironment env) (Arguments.split args).engine groups,
      fun hquiet => dumps_of_quiet hquiet _ _, ?_⟩
    rw [run_of_groups launch hargs hgroups, run_of_groups launch hargs hgroups, settings_quiet,
      ofGroups_eq_dumps, outcome_after]
    generalize Plan.outcome launch _ = result
    cases result <;> rfl

lemma map_visible_after (before : String) (result : Except RunError Outcome) :
    (result.map (Outcome.after before)).map Outcome.visible = result.map Outcome.visible := by
  cases result <;> rfl

/-- **Diagnostics do not interfere.**  Two runs that differ only in the variables for diagnostics fail
alike, or agree in everything but the error output; there, a run without dumps shows the end of what
the other one shows.  No dump meets a number that is too long to be written. -/
theorem runs_agree_up_to_diagnostics (env env' : Environment)
    (launch : List String → Engine.Launch) (args : List String)
    (hengine : env "FIELDPRINT_AWK" = env' "FIELDPRINT_AWK")
    (hdry : env "FIELDPRINT_DRY_RUN" = env' "FIELDPRINT_DRY_RUN") :
    (run env launch args).map Outcome.visible = (run env' launch args).map Outcome.visible ∧
    (∀ o o', run env launch args = .ok o → run env' launch args = .ok o' →
      ((Settings.ofEnvironment env).Quiet → ∃ before, o'.stderr = before ++ o.stderr) ∧
      ((Settings.ofEnvironment env').Quiet → ∃ before, o.stderr = before ++ o'.stderr)) ∧
    ∀ groups, Group.ofArguments (Arguments.split args).spec = .ok groups →
      (Value.list ((groups.map Group.toRecord).map RecordGroup.toValue)).isShowable := by
  obtain ⟨before, hbefore, hrun⟩ := run_eq_quiet env launch args
  obtain ⟨before', hbefore', hrun'⟩ := run_eq_quiet env' launch args
  rw [← quiet_eq_quiet hengine hdry] at hrun'
  refine ⟨?_, ?_, ?_⟩
  · rw [hrun, hrun', map_visible_after, map_visible_after]
  · intro o o' ho ho'
    obtain ⟨quiet, hquiet, rfl⟩ := map_eq_ok_iff.mp (hrun ▸ ho)
    obtain ⟨quiet', hquiet', rfl⟩ := map_eq_ok_iff.mp (hrun' ▸ ho')
    obtain rfl : quiet = quiet' := Except.ok.inj (hquiet.symm.trans hquiet')
    constructor
    · intro h
      exact ⟨before', by simp [Outcome.after, hbefore h]⟩
    · intro h
      exact ⟨before, by simp [Outcome.after, hbefore' h]⟩
  · intro groups hgroups
    exact (Group.kept_document hgroups).isShowable

/-- A run that dumps everything and one that dumps nothing, on an invalid token and an engine that
would have failed. -/
theorem runs_agree_on_invalid_token :
    ∃ o o', run (fun name => if name = "FIELDPRINT_DEBUG" then some " ALL" else none)
        (fun _ => .exited (-9)) ["%\x7bx\x7d"] = .ok o ∧
      run (fun _ => none) (fun _ => .exited (-9)) ["%\x7bx\x7d"] = .ok o' ∧
      o.visible = o'.visible ∧ ∃ before, o.stderr = before ++ o'.stderr := by
  have hspec : (Arguments.split ["%\x7bx\x7d"]).spec = ["%\x7bx\x7d"] := by decide
  have hgroups : Group.ofArguments (Arguments.split ["%\x7bx\x7d"]).spec =
      .ok [⟨"%\x7bx\x7d", [⟨"%\x7bx\x7d", .invalid "x"⟩]⟩] := by
    rw [hspec]
    cbv
  have hinvalid := fun env => @run_of_invalid env _ _ (fun _ => .exited (-9))
    (List.cons_ne_nil _ _) hgroups _ rfl
  have hagree := runs_agree_up_to_diagnostics
    (fun name => if name = "FIELDPRINT_DEBUG" then some " ALL" else none) (fun _ => none)
    (fun _ => .exited (-9)) ["%\x7bx\x7d"] rfl rfl
  have hvisible := hagree.1
  rw [hinvalid, hinvalid] at hvisible
  exact ⟨_, _, hinvalid _, hinvalid _, Except.ok.inj hvisible,
    (hagree.2.1 _ _ (hinvalid _) (hinvalid _)).2 ⟨rfl, rfl⟩⟩

end PrintSpec
