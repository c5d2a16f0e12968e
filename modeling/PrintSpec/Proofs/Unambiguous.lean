import PrintSpec.Proofs.Awk.Compiled

/-!
# A program determines its fragments

Two print specifications with the same program have the same number of arguments and the same
fragments in each of them.  The texts of a program are glued with blanks and commas that may also
stand inside literals, so this is not a fact about splitting texts at separators.  It holds because
awk's own reading of the action gives the terms back (`readAction?_action`), and the fragments are
the texts of the terms.

What a program does not show is whether an argument had no fragments or only the empty literal.
-/

namespace PrintSpec.Awk

/-! ## Taking the empty text away again -/

/-- Removes the empty text that `closed` adds to the last argument, and with it an argument that
has nothing else. -/
def opened : List (List Term) → List (List Term)
  | [] => []
  | [ts] => if ts.dropLast.isEmpty then [] else [ts.dropLast]
  | ts :: us :: rest => ts :: opened (us :: rest)

/-- No argument is lost when the empty text is added, because each has a term before it. -/
lemma opened_closed {arguments : List (List Term)} (h : ∀ ts ∈ arguments, ts ≠ []) :
    opened (closed arguments) = arguments := by
  induction arguments with
  | nil => rfl
  | cons ts arguments ih =>
    cases arguments with
    | nil =>
      have hts : ts ≠ [] := h ts List.mem_cons_self
      simp [closed, opened, hts]
    | cons us arguments =>
      have htail := ih fun vs hvs => h vs (List.mem_cons_of_mem ts hvs)
      obtain ⟨vs, rest, hrest⟩ := List.exists_cons_of_ne_nil (closed_ne_nil (us :: arguments))
      rw [closed, hrest, opened, ← hrest, htail]

/-! ## Terms and fragments -/

/-- The action of a compiled program determines the terms of its arguments. -/
lemma filled_terms_eq_of_action_eq {groups₁ groups₂ : List Group}
    (h : (compiled groups₁).action = (compiled groups₂).action) :
    (groups₁.map fun g => filled (groupTerms g)) =
      groups₂.map fun g => filled (groupTerms g) := by
  have hne : ∀ groups : List Group, ∀ ts ∈ groups.map fun g => filled (groupTerms g),
      ts ≠ [] := by
    intro groups ts hts
    obtain ⟨g, -, rfl⟩ := List.mem_map.mp hts
    exact filled_ne_nil _
  have hclosed : some (closed (groups₁.map fun g => filled (groupTerms g))) =
      some (closed (groups₂.map fun g => filled (groupTerms g))) := by
    rw [← readAction?_action, ← readAction?_action, h]
  have hopened := congrArg opened (Option.some.inj hclosed)
  rwa [opened_closed (hne groups₁), opened_closed (hne groups₂)] at hopened

/-- The fragments of an argument as a program shows them: an argument without any counts as the
empty literal. -/
def shownFragments (fragments : List String) : List String :=
  if fragments.isEmpty then [emptyLiteral] else fragments

lemma shownFragments_map_render (ts : List Term) :
    shownFragments (ts.map Term.render) = (filled ts).map Term.render := by
  cases ts with
  | nil => simp [shownFragments, filled]
  | cons t ts => simp [shownFragments, filled]

lemma map_shownFragments_compiled (groups : List Group) :
    (compiled groups).groups.map shownFragments =
      (groups.map fun g => filled (groupTerms g)).map (List.map Term.render) := by
  simp [compiled, shownFragments_map_render, Function.comp_def]

end PrintSpec.Awk

namespace PrintSpec

/-! ## Unambiguity -/

open Awk

lemma Group.length_of_ofArguments {args : List String} {groups : List Group}
    (h : Group.ofArguments args = .ok groups) : groups.length = args.length :=
  (mapM_eq_ok_iff.mp h).length_eq.symm

/-- Specifications with the same program have equally many arguments, and argument by argument the
same fragments.  So no text inside a literal can pass for a separator, for a field or for a call. -/
theorem fragments_eq_of_render_eq {args₁ args₂ : List String} {groups₁ groups₂ : List Group}
    {p₁ p₂ : Program}
    (hgroups₁ : Group.ofArguments args₁ = .ok groups₁)
    (hgroups₂ : Group.ofArguments args₂ = .ok groups₂)
    (hp₁ : Program.ofGroups groups₁ = .ok p₁) (hp₂ : Program.ofGroups groups₂ = .ok p₂)
    (hrender : p₁.render = p₂.render) :
    args₁.length = args₂.length ∧
      p₁.groups.map shownFragments = p₂.groups.map shownFragments := by
  obtain ⟨-, rfl⟩ := (ofGroups_eq_ok_iff (Group.natural_of_ofArguments hgroups₁)).mp hp₁
  obtain ⟨-, rfl⟩ := (ofGroups_eq_ok_iff (Group.natural_of_ofArguments hgroups₂)).mp hp₂
  -- the preludes agree anyway, so all that a program tells is in its last line
  have haction : (compiled groups₁).action = (compiled groups₂).action := by
    rw [← lastLine_render_compiled, ← lastLine_render_compiled, hrender]
  have hterms := filled_terms_eq_of_action_eq haction
  constructor
  · rw [← Group.length_of_ofArguments hgroups₁, ← Group.length_of_ofArguments hgroups₂]
    simpa using congrArg List.length hterms
  · rw [map_shownFragments_compiled, map_shownFragments_compiled, hterms]

/-- An empty argument and one that is an empty literal have the same program, and so have two
spellings of a field after a literal with a comma and a quote. -/
theorem fragments_eq_for_two_spellings :
    ∃ groups₁ groups₂ p₁ p₂,
      Group.ofArguments ["", "@\x7b, \"\x7d2"] = .ok groups₁ ∧
      Group.ofArguments ["@\x7b\x7d", "@\x7b, \"\x7d%2"] = .ok groups₂ ∧
      Program.ofGroups groups₁ = .ok p₁ ∧ Program.ofGroups groups₂ = .ok p₂ ∧
      p₁.render = p₂.render ∧
      p₁.groups.map shownFragments = p₂.groups.map shownFragments := by
  have hgroups₁ : Group.ofArguments ["", "@\x7b, \"\x7d2"] = .ok [⟨"", []⟩,
      ⟨"@\x7b, \"\x7d2", [⟨"@\x7b, \"\x7d", .block ", \""⟩, ⟨"2", .field 2⟩]⟩] := by
    cbv
  have hgroups₂ : Group.ofArguments ["@\x7b\x7d", "@\x7b, \"\x7d%2"] = .ok
      [⟨"@\x7b\x7d", [⟨"@\x7b\x7d", .block ""⟩]⟩,
        ⟨"@\x7b, \"\x7d%2", [⟨"@\x7b, \"\x7d", .block ", \""⟩, ⟨"%2", .field 2⟩]⟩] := by
    cbv
  have haction : ({ groups := [[], ["\", \\\"\"", "$2"]] } : Program).action =
      ({ groups := [["\"\""], ["\", \\\"\"", "$2"]] } : Program).action := by
    decide
  have hrender : ({ groups := [[], ["\", \\\"\"", "$2"]] } : Program).render =
      ({ groups := [["\"\""], ["\", \\\"\"", "$2"]] } : Program).render := by
    rw [Program.render, Program.render, haction]
  exact ⟨_, _, _, _, hgroups₁, hgroups₂, rfl, rfl, hrender,
    (fragments_eq_of_render_eq hgroups₁ hgroups₂ rfl rfl hrender).2⟩

end PrintSpec
