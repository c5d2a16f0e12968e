import PrintSpec.Proofs.Encoding
import PrintSpec.Proofs.Pattern

/-!
# Numbers and ranges as text

A field is written as a number: digits of any script, with a minus in front if the number counts
from the end.  A range is two numbers around one colon, each of which may be missing.  Between the
braces of a `%` block any text may stand, and it is a number, a range, or neither.

The code tells these apart by searching, by splitting at the first colon and by reading numerals as
people write them, with blanks, signs and underscores.  None of that shows in the end.
`isSignedDigits_iff` and `rangeSides?_eq_some_iff` say that the tests accept exactly the two
languages, and `fieldBody_signed` and `Bound.read_signed` that both ways of reading a number come to
the same: the digits are read as they are, and a minus only sets the direction.
-/

namespace PrintSpec

open PrintSpec.Text

/-! ## Digits -/

/-- At least one digit and nothing else. -/
structure IsDigits (ds : List Char) : Prop where
  ne_nil : ds ≠ []
  digits : ∀ c ∈ ds, isDigit c

lemma IsDigits.not_mem {ds : List Char} (h : IsDigits ds) {c : Char} (hc : isDigit c = false) :
    c ∉ ds := by
  intro hmem
  rw [h.digits c hmem] at hc
  cases hc

lemma IsDigits.head?_ne {ds : List Char} (h : IsDigits ds) {c : Char} (hc : isDigit c = false) :
    ds.head? ≠ some c :=
  fun hhead => h.not_mem hc (List.mem_of_head? hhead)

/-- No digit is a blank: the two tables have no code point in common. -/
lemma isBlank_of_isDigit {c : Char} (h : isDigit c) : isBlank c = false := by
  have hapart : ∀ z ∈ digitZeros, ∀ r ∈ blankRanges, z + 9 < r.1 ∨ r.2 < z := by decide
  obtain ⟨z, hz, hlow, hhigh⟩ : ∃ z ∈ digitZeros, z ≤ c.toNat ∧ c.toNat ≤ z + 9 := by
    simpa [isDigit, digitValue?] using h
  rw [isBlank, inRanges, List.any_eq_false]
  intro r hr
  have := hapart z hz r hr
  simp only [Bool.and_eq_true, decide_eq_true_eq]
  omega

lemma isMargin_of_isDigit {c : Char} (h : isDigit c) : Numeral.isMargin c = false := by
  unfold Numeral.isMargin
  split
  · by_contra hmem
    have hblank : isBlank c := by
      simp only [List.contains_eq_mem, List.mem_cons, List.not_mem_nil, or_false,
        Bool.not_eq_false, decide_eq_true_eq] at hmem
      rcases hmem with rfl | rfl | rfl | rfl | rfl | rfl <;> decide
    rw [isBlank_of_isDigit h] at hblank
    cases hblank
  · exact isBlank_of_isDigit h

namespace Numeral

/-- The number that digits denote is their value in base ten. -/
lemma ofDigits_eq (ds : List Char) :
    ofDigits ds = Nat.ofDigits 10 (ds.reverse.map digitValue) := by
  induction ds using List.reverseRecOn with
  | nil => rfl
  | append_singleton ds d ih =>
    rw [ofDigits_append, ih, List.reverse_append, List.reverse_singleton, List.singleton_append,
      List.map_cons, Nat.ofDigits_cons, Nat.add_comm]

/-- Where no underscore stands, digits are well grouped as soon as there is one. -/
lemma wellGrouped_of_not_mem {ds : List Char} (h : '_' ∉ ds) (afterDigit : Bool) :
    wellGrouped afterDigit ds = (afterDigit || !ds.isEmpty) := by
  induction ds generalizing afterDigit with
  | nil => simp [wellGrouped]
  | cons d ds ih =>
    rw [List.mem_cons, not_or] at h
    rw [wellGrouped, if_neg (Ne.symm h.1), ih h.2]
    simp

lemma splitSign_of_head?_ne {cs : List Char} (hminus : cs.head? ≠ some '-')
    (hplus : cs.head? ≠ some '+') : splitSign cs = (false, cs) := by
  unfold splitSign
  split
  · exact absurd rfl hminus
  · exact absurd rfl hplus
  · rfl

/-- A numeral that is only digits is read as these digits: there are no blanks to drop, no sign to
take and no underscores to leave out. -/
lemma read_digits {ds : List Char} (h : IsDigits ds) :
    read (String.ofList ds) = (readDigits ds).map Int.ofNat := by
  have hunderscore : '_' ∉ ds := h.not_mem (by decide)
  have hmargin : ds.dropWhile isMargin = ds := by
    obtain ⟨d, ds, rfl⟩ := List.exists_cons_of_ne_nil h.ne_nil
    have hd : isMargin d = false := isMargin_of_isDigit (h.digits d List.mem_cons_self)
    simp [hd]
  have hsign : splitSign ds = (false, ds) :=
    splitSign_of_head?_ne (h.head?_ne (by decide)) (h.head?_ne (by decide))
  have hrun : ∀ c ∈ ds, (isDigit c || c == '_') = true := by
    intro c hc
    rw [h.digits c hc, Bool.true_or]
  have hgrouped : wellGrouped false ds = true := by
    simpa [wellGrouped_of_not_mem hunderscore] using h.ne_nil
  have hfilter : ds.filter (· ≠ '_') = ds := by
    rw [List.filter_eq_self]
    intro c hc
    simpa using ne_of_mem_of_not_mem hc hunderscore
  simp only [read, String.toList_ofList, hmargin, hsign, List.takeWhile_eq_self_iff.mpr hrun,
    List.dropWhile_eq_nil_iff.mpr hrun, hgrouped, hfilter]
  cases readDigits ds <;> rfl

end Numeral

/-! ## Signed numbers -/

/-- Digits, with a minus in front if they count from the end. -/
def signed (fromEnd : Bool) (digits : List Char) : List Char :=
  if fromEnd then '-' :: digits else digits

/-- The field that a number names. -/
def fieldOf (fromEnd : Bool) (n : Nat) : Body :=
  if fromEnd then .fieldFromEnd n else .field n

namespace Matcher

lemma isNumber_iff_signed {cs : List Char} :
    IsNumber cs ↔ ∃ fromEnd digits, IsDigits digits ∧ cs = signed fromEnd digits := by
  constructor
  · rintro ⟨digits, hne, hdigits, rfl | rfl⟩
    · exact ⟨false, cs, ⟨hne, hdigits⟩, rfl⟩
    · exact ⟨true, digits, ⟨hne, hdigits⟩, rfl⟩
  · rintro ⟨fromEnd, digits, h, rfl⟩
    refine ⟨digits, h.ne_nil, h.digits, ?_⟩
    cases fromEnd
    · exact Or.inl rfl
    · exact Or.inr rfl

/-- The test for a signed number as a whole accepts exactly the numbers. -/
lemma isSignedDigits_iff {cs : List Char} : isSignedDigits cs ↔ IsNumber cs := by
  simp only [isSignedDigits, Bool.and_eq_true, Bool.not_eq_true', List.isEmpty_eq_false_iff,
    beq_iff_eq]
  constructor
  · rintro ⟨hne, hcs⟩
    rw [← hcs]
    apply isNumber_signedDigits
    rwa [hcs]
  · intro h
    refine ⟨h.ne_nil, (signedDigits_isPrefix cs).eq_of_length_le ?_⟩
    exact (isPrefix_signedDigits h (List.prefix_refl cs)).length_le

lemma IsNumber.not_mem {cs : List Char} (h : IsNumber cs) {c : Char} (hc : isDigit c = false)
    (hminus : c ≠ '-') : c ∉ cs := by
  obtain ⟨digits, hne, hdigits, rfl | rfl⟩ := h
  · exact IsDigits.not_mem ⟨hne, hdigits⟩ hc
  · rw [List.mem_cons, not_or]
    exact ⟨hminus, IsDigits.not_mem ⟨hne, hdigits⟩ hc⟩

/-- A number asks for the field that its digits and its sign name. -/
lemma fieldBody_signed (fromEnd : Bool) {digits : List Char} (h : IsDigits digits) :
    fieldBody (signed fromEnd digits) = (Numeral.readDigits digits).map (fieldOf fromEnd) := by
  cases fromEnd with
  | true => rfl
  | false =>
    have hminus := h.head?_ne isDigit_minus
    simp only [signed, Bool.false_eq_true, if_false, fieldBody]
    split
    · exact absurd rfl hminus
    · rfl

end Matcher

/-- A number is read as a range end with the value of its digits, and its sign says from where it
counts. -/
lemma Bound.read_signed (fromEnd : Bool) {digits : List Char} (h : IsDigits digits) :
    Bound.read (String.ofList (signed fromEnd digits)) =
      (Numeral.readDigits digits).map fun n => ⟨n, fromEnd⟩ := by
  rw [Bound.read, String.toList_ofList]
  cases fromEnd with
  | true =>
    simp only [signed, if_true, Numeral.read_digits h]
    cases Numeral.readDigits digits <;> rfl
  | false =>
    have hminus := h.head?_ne isDigit_minus
    simp only [signed, Bool.false_eq_true, if_false]
    split
    · exact absurd rfl hminus
    · rw [Numeral.read_digits h]
      cases Numeral.readDigits digits <;> rfl

/-! ## What numbers denote -/

/-- A text of digits of some script, after a minus if it counts from the end, and the number that
the digits denote in base ten. -/
def Denotes (cs : List Char) (fromEnd : Bool) (n : Nat) : Prop :=
  ∃ digits, IsDigits digits ∧ cs = signed fromEnd digits ∧
    n = Nat.ofDigits 10 (digits.reverse.map digitValue)

/-- The text of a range end: nothing where the end is left open. -/
def DenotesEnd (cs : List Char) : Option Bound → Prop
  | none => cs = []
  | some b => ∃ n : Nat, b.value = n ∧ Denotes cs b.fromEnd n

lemma denotes_of_readDigits (fromEnd : Bool) {digits : List Char} (h : IsDigits digits) {n : Nat}
    (hn : Numeral.readDigits digits = .ok n) : Denotes (signed fromEnd digits) fromEnd n := by
  refine ⟨digits, h, rfl, ?_⟩
  unfold Numeral.readDigits at hn
  split at hn
  · cases hn
  · cases hn
    exact Numeral.ofDigits_eq digits

namespace Matcher

/-! ## Ranges -/

/-- A side of a range: a number, or nothing. -/
def IsSide (cs : List Char) : Prop :=
  cs = [] ∨ IsNumber cs

/-- Two sides around one colon. -/
structure IsRange (cs first last : List Char) : Prop where
  eq_append : cs = first ++ ':' :: last
  first : IsSide first
  last : IsSide last

lemma isSide_iff {cs : List Char} : (cs.isEmpty || isSignedDigits cs) ↔ IsSide cs := by
  rw [Bool.or_eq_true, List.isEmpty_iff, isSignedDigits_iff, IsSide]

lemma IsSide.colon_not_mem {cs : List Char} (h : IsSide cs) : ':' ∉ cs := by
  rcases h with rfl | h
  · simp
  · exact h.not_mem (by decide) (by decide)

/-- Splitting at the first colon finds the sides of exactly the ranges. -/
lemma rangeSides?_eq_some_iff {cs first last : List Char} :
    rangeSides? cs = some (first, last) ↔ IsRange cs first last := by
  constructor
  · intro h
    unfold rangeSides? at h
    split at h
    · cases h
    · rename_i c rest hdrop
      obtain rfl : c = ':' := by
        have hhead := List.head?_dropWhile_not (· ≠ ':') cs
        rw [hdrop] at hhead
        simpa using hhead
      simp only [Option.ite_none_right_eq_some, Option.some.injEq, Prod.mk.injEq,
        Bool.and_eq_true] at h
      obtain ⟨⟨hfirst, hlast⟩, rfl, rfl⟩ := h
      refine ⟨?_, isSide_iff.mp hfirst, isSide_iff.mp hlast⟩
      rw [← hdrop, List.takeWhile_append_dropWhile]
  · rintro ⟨rfl, hfirst, hlast⟩
    have hpos : ∀ c ∈ first, decide (c ≠ ':') = true := by
      intro c hc
      simpa using ne_of_mem_of_not_mem hc hfirst.colon_not_mem
    have htake : (first ++ ':' :: last).takeWhile (· ≠ ':') = first := by
      rw [List.takeWhile_append_of_pos hpos]
      simp
    have hdrop : (first ++ ':' :: last).dropWhile (· ≠ ':') = ':' :: last := by
      rw [List.dropWhile_append_of_pos hpos]
      simp
    simp only [rangeSides?, hdrop, htake, isSide_iff.mpr hfirst, isSide_iff.mpr hlast]
    rfl

/-! ## Bodies -/

/-- A number, or a range. -/
def IsFieldSpec (cs : List Char) : Prop :=
  IsNumber cs ∨ ∃ first last, IsRange cs first last

lemma denotes_of_fieldBody {cs : List Char} (hcs : IsNumber cs) {b : Body}
    (h : fieldBody cs = .ok b) : ∃ fromEnd n, Denotes cs fromEnd n ∧ b = fieldOf fromEnd n := by
  obtain ⟨fromEnd, digits, hdigits, rfl⟩ := isNumber_iff_signed.mp hcs
  rw [fieldBody_signed fromEnd hdigits] at h
  obtain ⟨n, hn, rfl⟩ := map_eq_ok_iff.mp h
  exact ⟨fromEnd, n, denotes_of_readDigits fromEnd hdigits hn, rfl⟩

lemma denotesEnd_of_boundOf {cs : List Char} (hcs : IsSide cs) {bound : Option Bound}
    (h : boundOf cs = .ok bound) : DenotesEnd cs bound := by
  rcases hcs with rfl | hcs
  · cases h
    rfl
  · rw [boundOf, if_neg (by simpa using hcs.ne_nil)] at h
    obtain ⟨fromEnd, digits, hdigits, rfl⟩ := isNumber_iff_signed.mp hcs
    rw [Bound.read_signed fromEnd hdigits] at h
    obtain ⟨b, hb, rfl⟩ := map_eq_ok_iff.mp h
    obtain ⟨n, hn, rfl⟩ := map_eq_ok_iff.mp hb
    exact ⟨n, rfl, denotes_of_readDigits fromEnd hdigits hn⟩

/-- Text between braces asks for the field of a number, for the range between two ends, or for
nothing, as it is a number, a range or neither. -/
lemma denotes_of_bracedBody {cs : List Char} {b : Body} (h : bracedBody cs = .ok b) :
    (IsNumber cs ∧ ∃ fromEnd n, Denotes cs fromEnd n ∧ b = fieldOf fromEnd n) ∨
    (∃ first last a c, IsRange cs first last ∧ DenotesEnd first a ∧ DenotesEnd last c ∧
      b = .range a c) ∨
    (¬ IsFieldSpec cs ∧ b = .invalid (String.ofList cs)) := by
  by_cases hnumber : IsNumber cs
  · rw [bracedBody, if_pos (isSignedDigits_iff.mpr hnumber)] at h
    exact Or.inl ⟨hnumber, denotes_of_fieldBody hnumber h⟩
  · rw [bracedBody, if_neg (fun hsigned => hnumber (isSignedDigits_iff.mp hsigned))] at h
    cases hsides : rangeSides? cs with
    | none =>
      rw [hsides] at h
      cases h
      refine Or.inr (Or.inr ⟨?_, rfl⟩)
      rintro (h | ⟨first, last, hrange⟩)
      · exact hnumber h
      · rw [rangeSides?_eq_some_iff.mpr hrange] at hsides
        cases hsides
    | some sides =>
      obtain ⟨first, last⟩ := sides
      have hrange := rangeSides?_eq_some_iff.mp hsides
      rw [hsides] at h
      obtain ⟨a, ha, h⟩ := bind_eq_ok_iff.mp h
      obtain ⟨c, hc, h⟩ := bind_eq_ok_iff.mp h
      cases h
      exact Or.inr (Or.inl ⟨first, last, a, c, hrange, denotesEnd_of_boundOf hrange.first ha,
        denotesEnd_of_boundOf hrange.last hc, rfl⟩)

end Matcher

end PrintSpec
