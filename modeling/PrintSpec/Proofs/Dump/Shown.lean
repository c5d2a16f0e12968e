import PrintSpec.Proofs.Console
import PrintSpec.Proofs.Json.RoundTrip
import PrintSpec.Proofs.Outcome

/-!
# The JSON dump of the tokens survives the console

What a run reports goes through the console, which drops some control characters and makes spaces of
tabs.  The arguments of a run may hold all of these, and the dump of the tokens holds the arguments.
It comes out unchanged all the same: a JSON document is written with line ends and visible ASCII
characters alone (`all_valueText`), whatever its texts are and however deep they stand.

So the dump can be taken from the error output as it is and loaded, and the tokens come back.
-/

namespace PrintSpec

open PrintSpec.Text

namespace Json

/-! ## The characters of a document -/

/-- Whether a character is a line end or visible ASCII, with the space among it. -/
def isVisible (c : Char) : Bool :=
  c == '\n' || (0x20 ≤ c.toNat && c.toNat ≤ 0x7E)

lemma isVisible_of_isDigit {c : Char} (h : c.isDigit) : isVisible c = true := by
  have hrange : 48 ≤ c.toNat ∧ c.toNat ≤ 57 := by
    simpa [Char.isDigit_iff_toNat] using h
  simp only [isVisible, Bool.or_eq_true, Bool.and_eq_true, decide_eq_true_eq]
  omega

lemma all_hexLower (least n : Nat) : (hexLower least n).all isVisible = true := by
  have hdigits : ∀ d < 16, isVisible (Nat.digitChar d) = true := by decide
  rw [List.all_eq_true]
  intro c hc
  rcases List.mem_append.mp hc with hc | hc
  · rw [List.eq_of_mem_replicate hc]
    decide
  · obtain ⟨d, hd, rfl⟩ := exists_digitChar_of_mem_toDigits hc
    exact hdigits d hd

lemma all_unitEscape (n : Nat) : (unitEscape n).all isVisible = true := by
  have hmarks : isVisible '\\' = true ∧ isVisible 'u' = true := by decide
  simp [unitEscape, hmarks, all_hexLower]

/-- Every character is written with visible ones. -/
lemma all_charText (c : Char) : (charText c).all isVisible = true := by
  unfold charText
  -- seven characters have an escape of their own
  iterate 7
    split
    · decide
  split_ifs with hascii hbasic
  · simpa [isVisible] using .inr hascii
  · exact all_unitEscape _
  · rw [List.all_append, all_unitEscape, all_unitEscape]
    rfl

lemma all_codeText (n : Nat) : (codeText n).all isVisible = true := by
  unfold codeText
  split
  · exact all_charText _
  · exact all_unitEscape n

/-- Written characters between quotes are visible. -/
lemma all_between_quotes {α : Type} {write : α → List Char}
    (h : ∀ a, (write a).all isVisible = true) (as : List α) :
    ('"' :: as.flatMap write ++ ['"']).all isVisible = true := by
  have hquote : isVisible '"' = true := by decide
  simp [List.all_flatMap, h, hquote]

lemma all_stringText (s : String) : (stringText s).all isVisible = true :=
  all_between_quotes all_charText s.toList

lemma all_scalarText {s : Scalar} (h : s.Kept) : (scalarText s).all isVisible = true := by
  cases s with
  | null => decide
  | bool b => cases b <;> decide
  | int n =>
    obtain ⟨n, -, rfl⟩ := h
    rw [scalarText, toList_toString_natCast, List.all_eq_true]
    exact fun d hd =>
      isVisible_of_isDigit (Nat.isDigit_of_mem_toDigits (by decide) (by decide) hd)
  | str s => exact all_stringText s
  | torn codes => exact all_between_quotes all_codeText codes
  | double d => exact absurd h not_false

lemma all_newLine (depth : Nat) : (newLine depth).all isVisible = true := by
  have hmarks : isVisible '\n' = true ∧ isVisible ' ' = true := by decide
  simp [newLine, hmarks]

mutual

/-- **A document is written with line ends and visible ASCII characters.** -/
lemma all_valueText : ∀ {v : Value}, v.Kept → ∀ depth : Nat,
    (valueText depth v).all isVisible = true
  | .scalar _, h, _ => all_scalarText h
  | .list [], _, _ => by
    rw [valueText]
    decide
  | .map [], _, _ => by
    rw [valueText]
    decide
  | .list (v :: vs), h, depth => by
    have hmarks : isVisible '[' = true ∧ isVisible ']' = true := by decide
    simp [valueText, hmarks, all_newLine, all_itemsText h]
  | .map (e :: es), h, depth => by
    have hmarks : isVisible '{' = true ∧ isVisible '}' = true := by decide
    simp [valueText, hmarks, all_newLine, all_entriesText h.2]

lemma all_itemsText : ∀ {vs : List Value}, Value.AllKept vs → ∀ depth : Nat,
    (itemsText depth vs).all isVisible = true
  | [], _, _ => rfl
  | [v], h, depth => by
    simp [itemsText, all_newLine, all_valueText h.1]
  | v :: w :: rest, h, depth => by
    have hcomma : isVisible ',' = true := by decide
    simp [itemsText, hcomma, all_newLine, all_valueText h.1, all_itemsText h.2]

lemma all_entriesText : ∀ {es : List (Scalar × Value)}, Value.EntriesKept es → ∀ depth : Nat,
    (entriesText depth es).all isVisible = true
  | [], _, _ => rfl
  | [(k, v)], ⟨⟨s, hs⟩, hv, _⟩, depth => by
    have hmarks : isVisible ':' = true ∧ isVisible ' ' = true := by decide
    obtain rfl : k = .str s := hs
    simp [entriesText, keyText, hmarks, all_newLine, all_stringText, all_valueText hv]
  | (k, v) :: e :: rest, ⟨⟨s, hs⟩, hv, hes⟩, depth => by
    have hmarks : isVisible ':' = true ∧ isVisible ' ' = true ∧ isVisible ',' = true := by decide
    obtain rfl : k = .str s := hs
    simp [entriesText, keyText, hmarks, all_newLine, all_stringText, all_valueText hv,
      all_entriesText hes]

end

lemma keeps_of_isVisible {c : Char} (h : isVisible c = true) : Console.Keeps c := by
  constructor
  · rintro rfl
    exact absurd h (by decide)
  · rw [Bool.eq_false_iff]
    intro hdropped
    simp only [Console.isDropped, List.contains_eq_mem, List.mem_cons, List.not_mem_nil, or_false,
      decide_eq_true_eq] at hdropped
    rcases hdropped with rfl | rfl | rfl | rfl | rfl <;> exact absurd h (by decide)

/-- The console shows a document as it is. -/
lemma shown_render {v : Value} (h : v.Kept) : Console.shown (render v) = render v := by
  refine Console.shown_of_keeps fun c hc => keeps_of_isVisible ?_
  rw [render, String.toList_ofList] at hc
  exact List.all_eq_true.mp (all_valueText h 0) c hc

end Json

/-! ## Records keep their tokens -/

lemma Bound.toRecord_injective : Function.Injective Bound.toRecord := by
  rintro ⟨value, fromEnd⟩ ⟨value', fromEnd'⟩ h
  simpa [Bound.toRecord] using h

lemma Token.toRecord_injective : Function.Injective Token.toRecord := by
  rintro ⟨raw, body⟩ ⟨raw', body'⟩ h
  cases body <;> cases body' <;>
    simp_all [Token.toRecord, Body.kind, (Option.map_injective Bound.toRecord_injective).eq_iff]

lemma Group.toRecord_injective : Function.Injective Group.toRecord := by
  rintro ⟨argument, tokens⟩ ⟨argument', tokens'⟩ h
  simpa [Group.toRecord, (List.map_injective_iff.mpr Token.toRecord_injective).eq_iff] using h

/-! ## The report of a run -/

/-- The plan for token groups first reports them.  It ends, or it launches a command that is not
empty. -/
lemma Plan.ofGroups_cases (settings : Settings) (options : List String) (groups : List Group) :
    ∃ rest, (Plan.ofGroups settings options groups).stderr =
        Plan.tokenReport settings groups ++ rest ∧
      ((∃ status, (Plan.ofGroups settings options groups).step = .exit status) ∨
        ∃ engine words, (Plan.ofGroups settings options groups).step =
          .launch (engine :: words)) := by
  unfold Plan.ofGroups
  dsimp only
  split
  · exact ⟨_, rfl, .inl ⟨_, rfl⟩⟩
  · split_ifs
    · exact ⟨_, rfl, .inl ⟨_, rfl⟩⟩
    · exact ⟨_, rfl, .inr ⟨_, _, rfl⟩⟩

/-- Carrying out a plan adds to its report. -/
lemma Plan.exists_outcome {plan : Plan} (launch : List String → Engine.Launch)
    (hstep : (∃ status, plan.step = .exit status) ∨
      ∃ engine words, plan.step = .launch (engine :: words)) :
    ∃ o more, plan.outcome launch = .ok o ∧ o.stderr = plan.stderr ++ more := by
  unfold Plan.outcome
  rcases hstep with ⟨status, hstep⟩ | ⟨engine, words, hstep⟩
  · rw [hstep]
    exact ⟨_, "", rfl, by simp⟩
  · rw [hstep]
    dsimp only
    cases launch (engine :: words) with
    | exited code => exact ⟨_, "", rfl, by simp⟩
    | refused why => exact ⟨_, _, rfl, rfl⟩

/-- The report of the tokens as JSON is shown as it is written. -/
lemma Plan.tokenReport_json {settings : Settings} (htokens : settings.showTokens = true)
    (hformat : settings.format = .json) {args : List String} {groups : List Group}
    (hgroups : Group.ofArguments args = .ok groups) :
    Plan.tokenReport settings groups =
      "p: tokens\n" ++ Dump.render .json (groups.map Group.toRecord) ++ "\n" := by
  have hshown := Json.shown_render (Group.kept_document hgroups)
  have htitle : ownLine "tokens" = "p: tokens\n" := by decide +kernel
  rw [Plan.tokenReport, if_pos htokens, hformat, htitle, Console.line, Dump.render, hshown,
    String.append_assoc]

/-- **The JSON dump of the tokens survives the console.**  A run whose arguments are read, and that is
asked for the dump in this format, has an outcome for every engine, and begins its error output with a
title, the dump as it is written and a line end.  From the dump the same groups are loaded, and no
others. -/
theorem json_token_dump_survives_console (env : Environment) (args : List String)
    (groups : List Group) (hargs : args ≠ [])
    (hgroups : Group.ofArguments (Arguments.split args).spec = .ok groups)
    (htokens : (Settings.ofEnvironment env).showTokens = true)
    (hformat : (Settings.ofEnvironment env).format = .json) :
    ∃ dump, dump = Dump.render .json (groups.map Group.toRecord) ∧
      (∃ plan rest, Plan.ofArguments env args = .ok plan ∧
        plan.stderr = "p: tokens\n" ++ dump ++ "\n" ++ rest) ∧
      (∀ launch : List String → Engine.Launch, ∃ o rest, run env launch args = .ok o ∧
        o.stderr = "p: tokens\n" ++ dump ++ "\n" ++ rest) ∧
      ∀ groups' : List Group,
        Dump.load .json dump = .ok (groups'.map Group.toRecord) ↔ groups' = groups := by
  obtain ⟨rest, hstderr, hstep⟩ :=
    Plan.ofGroups_cases (Settings.ofEnvironment env) (Arguments.split args).engine groups
  rw [Plan.tokenReport_json htokens hformat hgroups] at hstderr
  refine ⟨_, rfl, ⟨_, rest, ?_, hstderr⟩, fun launch => ?_, fun groups' => ?_⟩
  · exact ofArguments_of_groups hargs hgroups
  · rw [run_of_groups launch hargs hgroups]
    obtain ⟨o, more, ho, hmore⟩ := Plan.exists_outcome launch hstep
    refine ⟨o, rest ++ more, by rw [ho]; rfl, ?_⟩
    rw [hmore, hstderr, String.append_assoc]
  · rw [Group.load_render_json hgroups, Except.ok.injEq,
      (List.map_injective_iff.mpr Group.toRecord_injective).eq_iff]
    exact eq_comm

/-- An argument with a tab, a bell, brackets and a wide character, and a format that is named in
capitals between blanks. -/
theorem json_token_dump_survives_console_with_tab_and_bell :
    ∃ env groups o rest,
      Group.ofArguments (Arguments.split ["a\t\x07[b]漢"]).spec = .ok groups ∧
      (Settings.ofEnvironment env).showTokens = true ∧
      (Settings.ofEnvironment env).format = .json ∧
      run env (fun _ => .exited 0) ["a\t\x07[b]漢"] = .ok o ∧
      o.stderr = "p: tokens\n" ++ Dump.render .json (groups.map Group.toRecord) ++ "\n" ++ rest := by
  let env : Environment := fun name =>
    if name = "FIELDPRINT_DEBUG" then some "tokens"
    else if name = "FIELDPRINT_DEBUG_FORMAT" then some " JSON "
    else none
  have htokens : (Settings.ofEnvironment env).showTokens = true := by decide +kernel
  have hformat : (Settings.ofEnvironment env).format = .json := by decide +kernel
  have hsplit : Arguments.split ["a\t\x07[b]漢"] = ⟨[], ["a\t\x07[b]漢"]⟩ := by decide
  have hgroups : Group.ofArguments (Arguments.split ["a\t\x07[b]漢"]).spec =
      .ok [⟨"a\t\x07[b]漢", [⟨"a\t\x07[b]漢", .plain "a\t\x07[b]漢"⟩]⟩] := by
    rw [hsplit]
    decide +kernel
  obtain ⟨_, rfl, -, hrun, -⟩ := json_token_dump_survives_console env ["a\t\x07[b]漢"] _
    (List.cons_ne_nil _ _) hgroups htokens hformat
  obtain ⟨o, rest, ho, hstderr⟩ := hrun fun _ => .exited 0
  exact ⟨env, _, o, rest, hgroups, htokens, hformat, ho, hstderr⟩

end PrintSpec
