import PrintSpec.Awk.Program
import PrintSpec.Proofs.Traversal

/-!
# Which groups compile

A braced specification that is neither a number nor a range is kept as an invalid token and refused
once it is compiled.  Groups compile exactly when they have no such token, and otherwise the failure
is about the first one, in the order of the arguments and of the tokens in each
(`ofGroups_eq_error_iff`).
-/

namespace PrintSpec.Awk

/-- No token of the groups is invalid. -/
def AllValid (groups : List Group) : Prop :=
  ∀ g ∈ groups, ∀ t ∈ g.tokens, t.body.kind ≠ .invalidField

instance (groups : List Group) : Decidable (AllValid groups) :=
  inferInstanceAs (Decidable (∀ g ∈ groups, ∀ t ∈ g.tokens, t.body.kind ≠ .invalidField))

/-- The failure names the first invalid token of the groups and its argument. -/
def FirstInvalid (groups : List Group) (e : InvalidField) : Prop :=
  ∃ earlier g later before t after,
    groups = earlier ++ g :: later ∧ g.tokens = before ++ t :: after ∧
      AllValid earlier ∧ (∀ t' ∈ before, t'.body.kind ≠ .invalidField) ∧
        t.body.kind = .invalidField ∧ e = ⟨t.raw, g.argument⟩

/-! ## Tokens and groups -/

lemma ofBody?_eq_none_iff {b : Body} : Fragment.ofBody? b = none ↔ b.kind = .invalidField := by
  cases b <;> simp [Fragment.ofBody?, Body.kind]

lemma exists_compileToken_iff {argument : String} {t : Token} :
    (∃ s, compileToken argument t = .ok s) ↔ t.body.kind ≠ .invalidField := by
  rw [ne_eq, ← ofBody?_eq_none_iff, compileToken]
  cases Fragment.ofBody? t.body <;> simp

lemma compileToken_eq_error_iff {argument : String} {t : Token} {e : InvalidField} :
    compileToken argument t = .error e ↔
      t.body.kind = .invalidField ∧ e = ⟨t.raw, argument⟩ := by
  rw [← ofBody?_eq_none_iff, compileToken]
  cases Fragment.ofBody? t.body <;> simp [eq_comm]

lemma exists_compileGroup_iff {g : Group} :
    (∃ fragments, compileGroup g = .ok fragments) ↔
      ∀ t ∈ g.tokens, t.body.kind ≠ .invalidField := by
  rw [compileGroup, exists_mapM_eq_ok_iff]
  simp only [exists_compileToken_iff]

lemma compileGroup_eq_error_iff {g : Group} {e : InvalidField} :
    compileGroup g = .error e ↔ ∃ before t after, g.tokens = before ++ t :: after ∧
      (∀ t' ∈ before, t'.body.kind ≠ .invalidField) ∧
        t.body.kind = .invalidField ∧ e = ⟨t.raw, g.argument⟩ := by
  rw [compileGroup, mapM_eq_error_iff]
  simp only [exists_compileToken_iff, compileToken_eq_error_iff]

/-! ## Programs -/

lemma exists_ofGroups_iff {groups : List Group} :
    (∃ p, Program.ofGroups groups = .ok p) ↔ AllValid groups := by
  have hmap : (∃ p, Program.ofGroups groups = .ok p) ↔
      ∃ fragments, groups.mapM compileGroup = .ok fragments := by
    simp [Program.ofGroups, map_eq_ok_iff]
  rw [hmap, exists_mapM_eq_ok_iff]
  simp only [exists_compileGroup_iff, AllValid]

/-- Groups fail to compile exactly when they have an invalid token, and the failure is about the
first one. -/
lemma ofGroups_eq_error_iff {groups : List Group} {e : InvalidField} :
    Program.ofGroups groups = .error e ↔ FirstInvalid groups e := by
  have hmap : Program.ofGroups groups = .error e ↔ groups.mapM compileGroup = .error e := by
    rw [Program.ofGroups]
    cases groups.mapM compileGroup <;> simp [Except.map]
  rw [hmap, mapM_eq_error_iff]
  simp only [exists_compileGroup_iff, compileGroup_eq_error_iff]
  -- the first group that fails, and in it the first token that does
  constructor
  · rintro ⟨earlier, g, later, hgroups, hearlier, before, t, after, htokens, h⟩
    exact ⟨earlier, g, later, before, t, after, hgroups, htokens, hearlier, h⟩
  · rintro ⟨earlier, g, later, before, t, after, hgroups, htokens, hearlier, h⟩
    exact ⟨earlier, g, later, hgroups, hearlier, before, t, after, htokens, h⟩

end PrintSpec.Awk
