import PrintSpec.Arguments
import PrintSpec.Proofs.FieldSpec

/-!
# The split of a command line

A command line is split by one of two rules.  Where the separator occurs, the first one divides the
two sides and is dropped.  Where it does not, the arguments at the start that look like options are
the engine's, and the print specification begins at the first one that does not.  `Lawful` says what
the two rules ask for, and every command line has exactly one lawful split.

Under both rules a split is known from its two sides (`split_of_separator`, `split_of_options`).  The
first of these also says that a split does not change when the separator is put in between its sides,
because the engine's side never has one.
-/

namespace PrintSpec.Arguments

/-! ## Options -/

/-- An argument that begins with a minus but is not a minus and digits, which would be a field. -/
def LooksLikeOption (argument : String) : Prop :=
  ∃ rest, argument.toList = '-' :: rest ∧ ¬ IsDigits rest

lemma isNegativeField_iff {argument : String} :
    isNegativeField argument ↔ ∃ digits, argument.toList = '-' :: digits ∧ IsDigits digits := by
  unfold isNegativeField
  split
  · rename_i digits hargument
    simp only [Bool.and_eq_true, Bool.not_eq_true', List.isEmpty_eq_false_iff, List.all_eq_true]
    constructor
    · rintro ⟨hne, hdigits⟩
      exact ⟨digits, hargument, hne, hdigits⟩
    · rintro ⟨digits', hargument', hdigits⟩
      obtain rfl : digits = digits' := by simpa [hargument] using hargument'
      exact ⟨hdigits.ne_nil, hdigits.digits⟩
  · rename_i hargument
    refine iff_of_false (by simp) ?_
    rintro ⟨digits, hdigits, -⟩
    exact hargument digits hdigits

lemma isOption_iff {argument : String} : isOption argument ↔ LooksLikeOption argument := by
  rw [isOption, Bool.and_eq_true, Bool.not_eq_true', ← Bool.not_eq_true, isNegativeField_iff,
    beq_iff_eq, List.head?_eq_some_iff]
  constructor
  · rintro ⟨⟨rest, hrest⟩, hfield⟩
    exact ⟨rest, hrest, fun hdigits => hfield ⟨rest, hrest, hdigits⟩⟩
  · rintro ⟨rest, hrest, hdigits⟩
    refine ⟨⟨rest, hrest⟩, ?_⟩
    rintro ⟨digits, hargument, h⟩
    obtain rfl : rest = digits := by simpa [hrest] using hargument
    exact hdigits h

/-! ## Lawful splits -/

/-- What the two sides of a command line have to be. -/
structure Lawful (args : List String) (sides : Arguments) : Prop where
  /-- The first separator stands between the two sides. -/
  atSeparator : separator ∈ args →
    args = sides.engine ++ [separator] ++ sides.spec ∧ separator ∉ sides.engine
  /-- Without a separator, the print specification begins at the first argument that does not look
  like an option. -/
  atFirstOther : separator ∉ args →
    args = sides.engine ++ sides.spec ∧ (∀ a ∈ sides.engine, LooksLikeOption a) ∧
      ∀ a ∈ sides.spec.head?, ¬ LooksLikeOption a

/-- The first separator divides a command line, and what follows may have more of them. -/
lemma split_of_separator {engine : List String} (h : separator ∉ engine) (spec : List String) :
    split (engine ++ [separator] ++ spec) = ⟨engine, spec⟩ := by
  have hengine : ∀ a ∈ engine, decide (a ≠ separator) = true := by
    intro a ha
    rw [decide_eq_true_eq]
    rintro rfl
    exact h ha
  have hstop : ∀ a ∈ (separator :: spec).head?, decide (a ≠ separator) = false := by simp
  obtain ⟨htake, hdrop⟩ := span_append hengine hstop
  rw [List.append_assoc, List.singleton_append, split, if_pos (by simp), htake, hdrop]
  rfl

/-- Without a separator, a command line is divided after the options at its start. -/
lemma split_of_options {engine spec : List String} (h : separator ∉ engine ++ spec)
    (hengine : ∀ a ∈ engine, LooksLikeOption a) (hspec : ∀ a ∈ spec.head?, ¬ LooksLikeOption a) :
    split (engine ++ spec) = ⟨engine, spec⟩ := by
  have hrun : ∀ a ∈ engine, isOption a := fun a ha => isOption_iff.mpr (hengine a ha)
  have hstop : ∀ a ∈ spec.head?, isOption a = false := by
    intro a ha
    rw [← Bool.not_eq_true, isOption_iff]
    exact hspec a ha
  obtain ⟨htake, hdrop⟩ := span_append hrun hstop
  rw [split, if_neg (by simpa using h), htake, hdrop]

lemma lawful_split (args : List String) : Lawful args (split args) := by
  by_cases hsep : separator ∈ args
  · obtain ⟨engine, spec, rfl, hengine⟩ := List.eq_append_cons_of_mem hsep
    have hsplit := split_of_separator hengine spec
    rw [List.append_assoc, List.singleton_append] at hsplit
    rw [hsplit]
    exact ⟨fun _ => ⟨by simp, hengine⟩, fun h => absurd hsep h⟩
  · refine ⟨fun h => absurd h hsep, fun _ => ?_⟩
    rw [split, if_neg (by simpa using hsep)]
    refine ⟨List.takeWhile_append_dropWhile.symm, ?_, ?_⟩
    · intro a ha
      exact isOption_iff.mp (List.mem_takeWhile_imp ha)
    · intro a ha hoption
      have hstop : isOption a = false := by
        simpa [Option.mem_def.mp ha] using List.head?_dropWhile_not isOption args
      rw [isOption_iff.mpr hoption] at hstop
      cases hstop

lemma Lawful.split_eq {args : List String} {sides : Arguments} (h : Lawful args sides) :
    split args = sides := by
  by_cases hsep : separator ∈ args
  · obtain ⟨hargs, hengine⟩ := h.atSeparator hsep
    rw [hargs, split_of_separator hengine]
  · obtain ⟨hargs, hengine, hspec⟩ := h.atFirstOther hsep
    rw [hargs] at hsep ⊢
    rw [split_of_options hsep hengine hspec]

lemma Lawful.separator_not_mem {args : List String} {sides : Arguments} (h : Lawful args sides) :
    separator ∉ sides.engine := by
  by_cases hsep : separator ∈ args
  · exact (h.atSeparator hsep).2
  · rw [(h.atFirstOther hsep).1, List.mem_append, not_or] at hsep
    exact hsep.1

/-- **A command line has one lawful split.**  Splitting finds it, no other split is lawful, and with the
separator written between its two sides the command line is split in the same way, whatever the print
specification holds. -/
theorem split_only_lawful (args : List String) :
    Lawful args (split args) ∧ (∀ sides, Lawful args sides → sides = split args) ∧
      split ((split args).engine ++ [separator] ++ (split args).spec) = split args := by
  refine ⟨lawful_split args, fun sides hsides => hsides.split_eq.symm, ?_⟩
  exact split_of_separator (lawful_split args).separator_not_mem _

-- a separator counts even where a print specification seems to have begun, and later ones do not
example : split ["-F", "1", "--", "-x", "--"] = ⟨["-F", "1"], ["-x", "--"]⟩ := by
  decide

end PrintSpec.Arguments
