import PrintSpec.Proofs.Awk.Validity
import PrintSpec.Proofs.Dump.Compiling
import PrintSpec.Proofs.PatternOrder
import PrintSpec.Proofs.Slices

/-!
# Which braces are refused

Whether a `%` block asks for a field is settled when the argument is cut into tokens, and a block
that does not is refused only when its token is compiled.  The two agree: compiling succeeds exactly
if every text between the braces of a `%` block is a number or a range, and fails at the first block
of the first argument for which that is not so.

Which tokens are `%` blocks can be told from their texts alone (`Token.IsBraced`), because no other
pattern covers such a text and none is left over as plain text.  With that, `Token.Offends` says of
a text what the kind says of a token (`Token.Placed.kind_eq_invalidField_iff`).
-/

namespace PrintSpec

open PrintSpec.Awk

/-! ## Blocks -/

/-- The token covers a `%` block with the given text between the braces. -/
def Token.IsBraced (t : Token) (interior : List Char) : Prop :=
  t.raw.toList = '%' :: '{' :: (interior ++ ['}'])

/-- The token covers a `%` block whose text is neither a number nor a range. -/
def Token.Offends (t : Token) : Prop :=
  ∃ interior, t.IsBraced interior ∧ ¬ Matcher.IsFieldSpec interior

namespace Matcher

/-- No pattern but the one for `%` blocks covers a `%` block. -/
lemma eq_bracedField_of_accepts {m : Matcher} {interior payload : List Char}
    (h : m.Accepts ('%' :: '{' :: (interior ++ ['}'])) payload) :
    m = .bracedField ∧ payload = interior := by
  obtain rfl : m = .bracedField := eq_ofOpening_of_accepts (List.prefix_refl _) h
  obtain ⟨htext, -⟩ := h
  exact ⟨rfl, by simpa using htext.symm⟩

/-- A `%` block is matched, perhaps only up to an earlier brace. -/
lemma not_noneMatches_of_braced (interior : List Char) :
    ¬ NoneMatches ('%' :: '{' :: (interior ++ ['}'])) := by
  intro h
  obtain ⟨inner, rest, hsplit, hinner⟩ :=
    List.eq_append_cons_of_mem (show '}' ∈ interior ++ ['}'] by simp)
  have htext : '%' :: '{' :: (inner ++ ['}']) <+: '%' :: '{' :: (interior ++ ['}']) := by
    rw [hsplit]
    exact ⟨rest, by simp⟩
  have haccepts : bracedField.Accepts ('%' :: '{' :: (inner ++ ['}'])) inner := ⟨rfl, hinner⟩
  obtain ⟨text, payload, hmatches⟩ := exists_matches_of_accepts htext haccepts
  exact h bracedField (by simp [all]) text payload hmatches

/-- Only a `%` block can ask for nothing. -/
lemma eq_bracedField_of_invalid {m : Matcher} {payload : List Char} {b : Body}
    (h : m.body payload = .ok b) (hkind : b.kind = .invalidField) : m = .bracedField := by
  cases m with
  | escapedAt | escapedPercent | literalNumber | literalBlock =>
    cases h
    cases hkind
  | bracedField => rfl
  | explicitField | implicitField =>
    obtain ⟨-, n, -, rfl | rfl⟩ := fieldBody_cases h
    · cases hkind
    · cases hkind

lemma kind_fieldOf_ne (fromEnd : Bool) (n : Nat) : (fieldOf fromEnd n).kind ≠ .invalidField := by
  cases fromEnd <;> simp [fieldOf, Body.kind]

/-- The text of a `%` block is refused exactly if it is neither a number nor a range. -/
lemma kind_bracedBody_eq_iff {interior : List Char} {b : Body} (h : bracedBody interior = .ok b) :
    b.kind = .invalidField ↔ ¬ IsFieldSpec interior := by
  rcases denotes_of_bracedBody h with
    ⟨hnumber, fromEnd, n, -, rfl⟩ | ⟨first, last, a, c, hrange, -, -, rfl⟩ | ⟨hspec, rfl⟩
  · exact iff_of_false (kind_fieldOf_ne fromEnd n) (not_not_intro (Or.inl hnumber))
  · exact iff_of_false (by simp [Body.kind]) (not_not_intro (Or.inr ⟨first, last, hrange⟩))
  · exact iff_of_true rfl hspec

end Matcher

/-- A token is invalid exactly if it covers a `%` block that is neither a number nor a range. -/
lemma Token.Placed.kind_eq_invalidField_iff {t : Token} {ts : List Token}
    (h : t.Placed t.raw.toList ts) : t.body.kind = .invalidField ↔ t.Offends := by
  constructor
  · intro hkind
    have hplain : t.body.kind ≠ .plainText := by
      rw [hkind]
      decide
    obtain ⟨m, interior, haccepts, hbody⟩ := h.accepts hplain
    obtain rfl := Matcher.eq_bracedField_of_invalid hbody hkind
    exact ⟨interior, haccepts.1, (Matcher.kind_bracedBody_eq_iff hbody).mp hkind⟩
  · rintro ⟨interior, hraw, hspec⟩
    have hplain : t.body.kind ≠ .plainText := by
      intro hkind
      have hnone := h.noneMatches hkind
      rw [hraw] at hnone
      exact Matcher.not_noneMatches_of_braced interior hnone
    obtain ⟨m, payload, haccepts, hbody⟩ := h.accepts hplain
    rw [hraw] at haccepts
    obtain ⟨rfl, rfl⟩ := Matcher.eq_bracedField_of_accepts haccepts
    exact (Matcher.kind_bracedBody_eq_iff hbody).mpr hspec

/-! ## The first block that is refused -/

/-- The failure names the first token of the groups that has a property, and its argument. -/
def FirstWith (P : Token → Prop) (groups : List Group) (e : InvalidField) : Prop :=
  ∃ earlier g later before t after,
    groups = earlier ++ g :: later ∧ g.tokens = before ++ t :: after ∧
      (∀ g' ∈ earlier, ∀ t' ∈ g'.tokens, ¬ P t') ∧ (∀ t' ∈ before, ¬ P t') ∧
        P t ∧ e = ⟨t.raw, g.argument⟩

lemma FirstWith.congr {P Q : Token → Prop} {groups : List Group}
    (h : ∀ g ∈ groups, ∀ t ∈ g.tokens, (P t ↔ Q t)) {e : InvalidField}
    (hfirst : FirstWith P groups e) : FirstWith Q groups e := by
  obtain ⟨earlier, g, later, before, t, after, hgroups, htokens, hearlier, hbefore, ht, he⟩ :=
    hfirst
  have hg : ∀ t' ∈ before ++ t :: after, (P t' ↔ Q t') := by
    rw [← htokens]
    exact h g (by simp [hgroups])
  refine ⟨earlier, g, later, before, t, after, hgroups, htokens, ?_, ?_, ?_, he⟩
  · intro g' hg' t' ht' hQ
    exact hearlier g' hg' t' ht' ((h g' (by simp [hgroups, hg']) t' ht').mpr hQ)
  · intro t' ht' hQ
    exact hbefore t' ht' ((hg t' (by simp [ht'])).mpr hQ)
  · exact (hg t (by simp)).mp ht

/-! ## The groups of arguments -/

namespace Group

lemma map_argument_of_ofArguments {args : List String} {groups : List Group}
    (h : ofArguments args = .ok groups) : groups.map Group.argument = args := by
  have hall : List.Forall₂ (fun arg g => arg = Group.argument g) args groups := by
    refine (mapM_eq_ok_iff.mp h).imp fun arg g hg => ?_
    obtain ⟨tokens, -, rfl⟩ := map_eq_ok_iff.mp hg
    rfl
  rw [← List.forall₂_map_right_iff, List.forall₂_eq_eq_eq] at hall
  exact hall.symm

lemma placed_of_ofArguments {args : List String} {groups : List Group}
    (h : ofArguments args = .ok groups) :
    ∀ g ∈ groups, ∀ t ∈ g.tokens, t.Placed t.raw.toList [] := by
  intro g hg t ht
  obtain ⟨arg, -, hgroup⟩ := exists_mem_of_mapM_eq_ok h hg
  obtain ⟨tokens, htokens, rfl⟩ := map_eq_ok_iff.mp hgroup
  exact placed_raw_of_tokenize htokens ht

/-- In the groups of arguments, the invalid tokens are the blocks that are neither numbers nor
ranges. -/
lemma invalidField_iff_of_ofArguments {args : List String} {groups : List Group}
    (h : ofArguments args = .ok groups) :
    ∀ g ∈ groups, ∀ t ∈ g.tokens, (t.body.kind = .invalidField ↔ t.Offends) :=
  fun g hg t ht => (placed_of_ofArguments h g hg t ht).kind_eq_invalidField_iff

end Group

/-! ## Compiling tokens and compiling their records -/

lemma RecordGroup.compile_toRecord {g : Group}
    (h : ∀ t ∈ g.tokens, t.toRecord.Storable Value.IsWhole) :
    g.toRecord.compile = ((compileGroup g).map (List.map Scalar.str)).mapError
      fun e => .invalidField e.toRecord := by
  rw [RecordGroup.compile, compileGroup, Group.toRecord, List.mapM_map]
  exact mapM_eq_map_mapError fun t ht => Record.compile_toRecord (h t ht) g.argument

/-- The records of tokens compile as the tokens do. -/
lemma mapM_compile_toRecord {groups : List Group}
    (h : ∀ g ∈ groups, ∀ t ∈ g.tokens, t.toRecord.Storable Value.IsWhole) :
    (groups.map Group.toRecord).mapM RecordGroup.compile =
      ((Program.ofGroups groups).map fun p => p.groups.map (List.map Scalar.str)).mapError
        fun e => .invalidField e.toRecord := by
  have hgroups : ((Program.ofGroups groups).map fun p => p.groups.map (List.map Scalar.str)) =
      (groups.mapM compileGroup).map (List.map (List.map Scalar.str)) := by
    rw [Program.ofGroups]
    cases groups.mapM compileGroup <;> rfl
  rw [hgroups, List.mapM_map]
  exact mapM_eq_map_mapError fun g hg => RecordGroup.compile_toRecord (h g hg)

/-- The fragments of a group: one for each token, in order. -/
def FragmentsOf (g : Group) (fragments : List String) : Prop :=
  List.Forall₂ (fun t fragment => compileToken g.argument t = .ok fragment) g.tokens fragments

lemma fragmentsOf_of_ofGroups {groups : List Group} {p : Program}
    (h : Program.ofGroups groups = .ok p) : List.Forall₂ FragmentsOf groups p.groups := by
  obtain ⟨fragments, hfragments, rfl⟩ := map_eq_ok_iff.mp h
  exact (mapM_eq_ok_iff.mp hfragments).imp fun g fragments hg => mapM_eq_ok_iff.mp hg

/-- **Compiling accepts exactly the braces that hold a number or a range.**  Otherwise it fails at
the first block that holds neither.  A compiled program has the fragments of all tokens of all
arguments, one for each.  There is no other way to fail: records, whose values may be missing or of
any type, compile as their tokens do, and no number in them is too long to be written. -/
theorem compiles_iff_braces_hold_fields {args : List String} {groups : List Group}
    (h : Group.ofArguments args = .ok groups) :
    ((∃ p, Program.ofGroups groups = .ok p) ↔ ∀ g ∈ groups, ∀ t ∈ g.tokens, ∀ interior,
      t.IsBraced interior → Matcher.IsFieldSpec interior) ∧
    (∀ e, Program.ofGroups groups = .error e ↔ FirstWith Token.Offends groups e) ∧
    (∀ p, Program.ofGroups groups = .ok p →
      groups.map Group.argument = args ∧ List.Forall₂ FragmentsOf groups p.groups) ∧
    ((groups.map Group.toRecord).mapM RecordGroup.compile =
      ((Program.ofGroups groups).map fun p => p.groups.map (List.map Scalar.str)).mapError
        (fun e => .invalidField e.toRecord) ∧
        ∀ g ∈ groups.map Group.toRecord, g.Storable Value.IsWhole) := by
  have hinvalid := Group.invalidField_iff_of_ofArguments h
  have hstorable := Group.storable_of_ofArguments h
  have htokens : ∀ g ∈ groups, ∀ t ∈ g.tokens, t.toRecord.Storable Value.IsWhole := fun g hg t ht =>
    (hstorable _ (List.mem_map_of_mem hg)).tokens _ (List.mem_map_of_mem ht)
  refine ⟨?_, ?_, ?_, mapM_compile_toRecord htokens, hstorable⟩
  · rw [exists_ofGroups_iff]
    refine forall₂_congr fun g hg => forall₂_congr fun t ht => ?_
    rw [ne_eq, hinvalid g hg t ht, Token.Offends]
    push Not
    rfl
  · intro e
    rw [ofGroups_eq_error_iff]
    exact ⟨FirstWith.congr hinvalid, FirstWith.congr fun g hg t ht => (hinvalid g hg t ht).symm⟩
  · intro p hp
    exact ⟨Group.map_argument_of_ofArguments h, fragmentsOf_of_ofGroups hp⟩

/-- A range with two colons is refused, although another block that is refused comes after it in the
same argument and one more in the next. -/
theorem compiles_iff_braces_hold_fields_two_colons :
    ∃ groups, Group.ofArguments
        ["%\x7b-1\x7d", "a%\x7b:2\x7d%\x7b1:2:3\x7d%\x7bx\x7d", "%\x7b\x7d"] = .ok groups ∧
      Program.ofGroups groups =
        .error ⟨"%\x7b1:2:3\x7d", "a%\x7b:2\x7d%\x7b1:2:3\x7d%\x7bx\x7d"⟩ ∧
      FirstWith Token.Offends groups
        ⟨"%\x7b1:2:3\x7d", "a%\x7b:2\x7d%\x7b1:2:3\x7d%\x7bx\x7d"⟩ := by
  have hgroups : Group.ofArguments
      ["%\x7b-1\x7d", "a%\x7b:2\x7d%\x7b1:2:3\x7d%\x7bx\x7d", "%\x7b\x7d"] = .ok
      [⟨"%\x7b-1\x7d", [⟨"%\x7b-1\x7d", .fieldFromEnd 1⟩]⟩,
        ⟨"a%\x7b:2\x7d%\x7b1:2:3\x7d%\x7bx\x7d",
          [⟨"a", .plain "a"⟩, ⟨"%\x7b:2\x7d", .range none (some ⟨2, false⟩)⟩,
            ⟨"%\x7b1:2:3\x7d", .invalid "1:2:3"⟩, ⟨"%\x7bx\x7d", .invalid "x"⟩]⟩,
        ⟨"%\x7b\x7d", [⟨"%\x7b\x7d", .invalid ""⟩]⟩] := by
    cbv
  exact ⟨_, hgroups, rfl, ((compiles_iff_braces_hold_fields hgroups).2.1 _).mp rfl⟩

end PrintSpec
