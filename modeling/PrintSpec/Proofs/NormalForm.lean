import Mathlib.Logic.Function.Basic
import PrintSpec.Proofs.LowerCase
import PrintSpec.Settings

/-!
# Settings are read through one normal form

Three of the four variables are switches or names, and of their values only the normal form is looked
at: no blanks around it, lower case.  Of the fourth, the name of the engine, the blanks around it are
taken away and its case is kept.  `Settings.ofEnvironment_congr` says that nothing else of an
environment matters, so every change that keeps the normal forms keeps the settings.

The variable for diagnostics is normalised twice on its way, and the one for a dry run once.  They
agree on which values are on because the normal form of a normal form is itself.
-/

namespace PrintSpec.Settings

open PrintSpec.Text

/-! ## Normal forms -/

lemma normal_lower (value : String) : normal (lower value) = normal value := by
  rw [normal, trim_lower, lower_lower, normal]

/-- **The normal form of a normal form is itself.** -/
lemma normal_normal (value : String) : normal (normal value) = normal value := by
  calc normal (lower (trim value)) = normal (trim value) := normal_lower _
    _ = normal value := by rw [normal, trim_trim, normal]

/-! ## What a value asks for -/

lemma isOn_congr {value value' : String} (h : normal value = normal value') :
    isOn value = isOn value' := by
  rw [isOn, h, isOn]

lemma debugParts_congr {value value' : String} (h : normal value = normal value') :
    debugParts value = debugParts value' := by
  rw [debugParts, h, debugParts]

lemma engineOf_congr {value value' : String} (h : trim value = trim value') :
    engineOf value = engineOf value' := by
  rw [engineOf, h, engineOf]

/-- A value shows the tokens or the program exactly if a switch with that value is on. -/
lemma debugParts_or (value : String) :
    ((debugParts value).1 || (debugParts value).2) = isOn value := by
  have hword : ∀ word : String, normal value = word → offValues.contains word = false →
      isOn value = true := by
    intro word hword hoff
    rw [isOn, hword, hoff]
    rfl
  unfold debugParts
  dsimp only
  split_ifs with htokens hprogram
  · exact (hword _ htokens (by decide)).symm
  · exact (hword _ hprogram (by decide)).symm
  · rw [Bool.or_self, isOn_congr (normal_normal value)]

lemma name_formatOf (value : String) :
    (formatOf value).name =
      if normal value = "yaml" ∨ normal value = "json" then normal value else "yaml" := by
  unfold formatOf DumpFormat.ofName
  split_ifs with hjson hknown hknown
  · exact hjson.symm
  · exact absurd (.inr hjson) hknown
  · exact (hknown.resolve_right hjson).symm
  · rfl

lemma engineOf_ne_empty (value : String) : engineOf value ≠ "" := by
  unfold engineOf
  dsimp only
  split_ifs with hempty
  · decide
  · exact hempty

lemma isTrimmed_engineOf (value : String) : IsTrimmed (engineOf value).toList := by
  have hdefault : trim defaultEngine = defaultEngine := by decide
  unfold engineOf
  dsimp only
  split_ifs with hempty
  · rw [← hdefault]
    exact isTrimmed_trim defaultEngine
  · exact isTrimmed_trim value

/-! ## Environments -/

section

variable (env : Environment)

lemma format_ofEnvironment :
    (ofEnvironment env).format = formatOf ((env "FIELDPRINT_DEBUG_FORMAT").getD "yaml") := by
  rw [ofEnvironment]

lemma engine_ofEnvironment :
    (ofEnvironment env).engine = engineOf ((env "FIELDPRINT_AWK").getD "") := by
  rw [ofEnvironment]

lemma dryRun_ofEnvironment :
    (ofEnvironment env).dryRun = isOn ((env "FIELDPRINT_DRY_RUN").getD "") := by
  rw [ofEnvironment]

/-- Some diagnostics are shown exactly if their variable is on. -/
lemma shows_ofEnvironment :
    ((ofEnvironment env).showTokens || (ofEnvironment env).showProgram) =
      isOn ((env "FIELDPRINT_DEBUG").getD "") := by
  rw [ofEnvironment, debugParts_or]

end

/-- **The settings depend on four forms of an environment and on nothing else.** -/
lemma ofEnvironment_congr {env other : Environment}
    (hdebug : normal ((env "FIELDPRINT_DEBUG").getD "") =
      normal ((other "FIELDPRINT_DEBUG").getD ""))
    (hformat : normal ((env "FIELDPRINT_DEBUG_FORMAT").getD "yaml") =
      normal ((other "FIELDPRINT_DEBUG_FORMAT").getD "yaml"))
    (hdry : normal ((env "FIELDPRINT_DRY_RUN").getD "") =
      normal ((other "FIELDPRINT_DRY_RUN").getD ""))
    (hengine : trim ((env "FIELDPRINT_AWK").getD "") = trim ((other "FIELDPRINT_AWK").getD "")) :
    ofEnvironment env = ofEnvironment other := by
  rw [ofEnvironment, debugParts_congr hdebug, formatOf, hformat, isOn_congr hdry,
    engineOf_congr hengine]
  rfl

section

variable {env : Environment} {name value value' : String} (hvalue : env name = some value)

include hvalue

/-- Another value with the same form leaves the forms of all variables the same. -/
lemma form_update (form : String → String) (h : form value' = form value)
    (other missing : String) :
    form ((Function.update env name (some value') other).getD missing) =
      form ((env other).getD missing) := by
  by_cases hother : other = name
  · rw [hother, Function.update_self, hvalue]
    exact h
  · rw [Function.update_of_ne hother]

lemma ofEnvironment_update_of_trim (h : trim value' = trim value) :
    ofEnvironment (Function.update env name (some value')) = ofEnvironment env := by
  have hnormal : normal value' = normal value := by rw [normal, h, normal]
  exact ofEnvironment_congr (form_update hvalue normal hnormal _ _)
    (form_update hvalue normal hnormal _ _) (form_update hvalue normal hnormal _ _)
    (form_update hvalue trim h _ _)

lemma ofEnvironment_update_of_normal (hname : name ≠ "FIELDPRINT_AWK")
    (h : normal value' = normal value) :
    ofEnvironment (Function.update env name (some value')) = ofEnvironment env := by
  refine ofEnvironment_congr (form_update hvalue normal h _ _) (form_update hvalue normal h _ _)
    (form_update hvalue normal h _ _) ?_
  rw [Function.update_of_ne hname.symm]

end

/-- **Settings are read through one normal form.**  The format of the dump is the one whose name is
the normal form of its variable, or the default, and the engine has a name without blanks around it.
Blanks around any value, and lower case in place of the value of any variable but the engine's, leave
the settings as they are.  The same values ask for diagnostics of some kind and for a dry run. -/
theorem settings_read_through_normal_form :
    (∀ env : Environment,
      (ofEnvironment env).format.name =
        (let form := normal ((env "FIELDPRINT_DEBUG_FORMAT").getD "yaml")
         if form = "yaml" ∨ form = "json" then form else "yaml") ∧
      ((ofEnvironment env).format.name = "yaml" ∨ (ofEnvironment env).format.name = "json") ∧
      (ofEnvironment env).engine ≠ "" ∧ IsTrimmed (ofEnvironment env).engine.toList) ∧
    (∀ (env : Environment) (name value before after : String), env name = some value →
      (∀ c ∈ before.toList, isBlank c) → (∀ c ∈ after.toList, isBlank c) →
        ofEnvironment (Function.update env name (some (before ++ value ++ after))) =
          ofEnvironment env) ∧
    (∀ (env : Environment) (name value : String), name ≠ "FIELDPRINT_AWK" →
      env name = some value →
        ofEnvironment (Function.update env name (some (lower value))) = ofEnvironment env) ∧
    ∀ (env : Environment) (value : String),
      (ofEnvironment (Function.update env "FIELDPRINT_DEBUG" (some value))).showTokens = true ∨
        (ofEnvironment (Function.update env "FIELDPRINT_DEBUG" (some value))).showProgram = true ↔
      (ofEnvironment (Function.update env "FIELDPRINT_DRY_RUN" (some value))).dryRun = true := by
  refine ⟨?_, ?_, ?_, ?_⟩
  · intro env
    rw [format_ofEnvironment, engine_ofEnvironment]
    refine ⟨name_formatOf _, ?_, engineOf_ne_empty _, isTrimmed_engineOf _⟩
    cases formatOf ((env "FIELDPRINT_DEBUG_FORMAT").getD "yaml") with
    | yaml => exact .inl rfl
    | json => exact .inr rfl
  · intro env name value before after hvalue hbefore hafter
    exact ofEnvironment_update_of_trim hvalue (trim_of_padded hbefore hafter (by simp))
  · intro env name value hname hvalue
    exact ofEnvironment_update_of_normal hvalue hname (normal_lower value)
  · intro env value
    rw [← Bool.or_eq_true, shows_ofEnvironment, dryRun_ofEnvironment, Function.update_self,
      Function.update_self]

/-- A value with a capital that becomes two letters and with a sigma at its end, between an
ideographic space and a next-line control. -/
theorem settings_read_final_sigma_between_blanks :
    ∃ env : Environment, env "FIELDPRINT_DEBUG" = some "İΑΣ" ∧ (ofEnvironment env).showTokens = true ∧
      lower "İΑΣ" = "i\u0307ας" ∧
      ofEnvironment
          (Function.update env "FIELDPRINT_DEBUG" (some ("\u3000" ++ "İΑΣ" ++ "\u0085"))) =
        ofEnvironment env ∧
      ofEnvironment (Function.update env "FIELDPRINT_DEBUG" (some (lower "İΑΣ"))) =
        ofEnvironment env :=
  ⟨fun name => if name = "FIELDPRINT_DEBUG" then some "İΑΣ" else none, by decide,
    by decide +kernel, by decide +kernel,
    settings_read_through_normal_form.2.1 _ _ _ _ _ (by decide) (List.all_eq_true.mp (by decide))
      (List.all_eq_true.mp (by decide)),
    settings_read_through_normal_form.2.2.1 _ _ _ (by decide) (by decide)⟩

end PrintSpec.Settings
