import Mathlib.Data.List.Chain
import Mathlib.Data.List.Induction
import Mathlib.Data.Nat.Digits.Defs
import PrintSpec.Document.Value
import PrintSpec.Text.Hex

/-!
# Numerals and code points are read back

A number that is written in decimal digits is read back as itself, and so are a number written in
hexadecimal digits of a fixed width and a text given by its code points.  In the other direction a
run of digits never denotes a number with more digits than it has, so that every number that was
read within the limit can also be written within it.
-/

namespace PrintSpec

open PrintSpec.Text

/-! ## Decimal digits -/

/-- The digits of a number are the ASCII digits, whose value is their distance from zero. -/
lemma digitValue_of_isDigit {c : Char} (h : c.isDigit) : digitValue c = c.toNat - '0'.toNat := by
  have hrange : 48 ≤ c.toNat ∧ c.toNat ≤ 57 := by
    simpa [Char.isDigit_iff_toNat] using h
  have hfind : digitZeros.find? (fun z => z ≤ c.toNat && c.toNat ≤ z + 9) = some 0x30 := by
    rw [digitZeros, List.find?_cons_of_pos]
    simp only [Bool.and_eq_true, decide_eq_true_eq]
    omega
  simp [digitValue, digitValue?, hfind]

lemma ne_of_isDigit {d c : Char} (hd : d.isDigit) (hc : c.isDigit = false) : d ≠ c := by
  rintro rfl
  simp [hd] at hc

lemma digitValue_le_nine (c : Char) : digitValue c ≤ 9 := by
  unfold digitValue digitValue?
  cases hfind : digitZeros.find? (fun z => z ≤ c.toNat && c.toNat ≤ z + 9) with
  | none => simp
  | some z =>
    have hz := List.find?_some hfind
    simp only [Bool.and_eq_true, decide_eq_true_eq] at hz
    simp only [Option.map_some, Option.getD_some]
    omega

namespace Numeral

lemma isWritable_iff {n : Int} : isWritable n ↔ n.natAbs < 10 ^ digitLimit := by
  unfold isWritable
  generalize digitLimit = limit
  simp

lemma ofDigits_append (ds : List Char) (d : Char) :
    ofDigits (ds ++ [d]) = 10 * ofDigits ds + digitValue d := by
  simp [ofDigits]

/-- A run of digits denotes a number with at most as many digits. -/
lemma ofDigits_lt (ds : List Char) : ofDigits ds < 10 ^ ds.length := by
  induction ds using List.reverseRecOn with
  | nil => simp [ofDigits]
  | append_singleton ds d ih =>
    have hd := digitValue_le_nine d
    rw [ofDigits_append, List.length_append, List.length_singleton, Nat.pow_succ]
    omega

/-- A number that was read within the limit can be written within it. -/
lemma lt_of_readDigits {ds : List Char} {n : Nat} (h : readDigits ds = .ok n) :
    n < 10 ^ digitLimit := by
  unfold readDigits at h
  split at h
  · cases h
  · rename_i hlength
    cases h
    calc ofDigits ds < 10 ^ ds.length := ofDigits_lt ds
      _ ≤ 10 ^ digitLimit := Nat.pow_le_pow_right (by decide) (by omega)

/-- The same for a number in its written form: the sign is not one of its digits. -/
lemma natAbs_lt_of_read {text : String} {n : Int} (h : read text = .ok n) :
    n.natAbs < 10 ^ digitLimit := by
  unfold read at h
  dsimp only at h
  split at h
  · split at h
    · cases h
    · rename_i m hm
      have hlt := lt_of_readDigits hm
      split at h
      · cases h
        split <;> simpa using hlt
      · cases h
  · cases h

lemma ofDigits_toDigits (n : Nat) : ofDigits (Nat.toDigits 10 n) = n := by
  have hvalue : ∀ (ds : List Char) (m : Nat), (∀ d ∈ ds, d.isDigit) →
      ds.foldl (fun n d => 10 * n + digitValue d) m = Nat.ofDigitChars 10 ds m := by
    intro ds
    induction ds with
    | nil => intro m _; rfl
    | cons d ds ih =>
      intro m hds
      rw [List.foldl_cons, Nat.ofDigitChars_cons, digitValue_of_isDigit (hds d List.mem_cons_self)]
      exact ih _ fun d' hd' => hds d' (List.mem_cons_of_mem d hd')
  rw [ofDigits, hvalue _ _ fun d hd => Nat.isDigit_of_mem_toDigits (by decide) (by decide) hd]
  exact Nat.ofDigitChars_ten_toDigits

lemma exists_toDigits_cons (n : Nat) : ∃ d ds, Nat.toDigits 10 n = d :: ds ∧ d.isDigit := by
  obtain ⟨d, ds, hds⟩ := List.exists_cons_of_ne_nil (Nat.toDigits_ne_nil (n := n) (b := 10))
  refine ⟨d, ds, hds, Nat.isDigit_of_mem_toDigits (b := 10) (n := n) (by decide) (by decide) ?_⟩
  rw [hds]
  exact List.mem_cons_self

/-- A number within the limit is read back from its digits. -/
lemma readDigits_toDigits {n : Nat} (h : n < 10 ^ digitLimit) :
    readDigits (Nat.toDigits 10 n) = .ok n := by
  have hlength : (Nat.toDigits 10 n).length ≤ digitLimit :=
    Nat.toDigits_length 10 n digitLimit (by decide) h
  rw [readDigits, if_neg (by omega), ofDigits_toDigits]

/-- Only the number zero is written with a leading zero. -/
lemma toDigits_of_leading_zero {n : Nat} {ds : List Char} (h : Nat.toDigits 10 n = '0' :: ds) :
    n = 0 ∧ ds = [] := by
  induction n using Nat.strongRecOn generalizing ds with
  | ind n ih =>
    by_cases hlt : n < 10
    · rw [Nat.toDigits_of_lt_base hlt] at h
      obtain ⟨hzero, rfl⟩ := List.cons.inj h
      exact ⟨by simpa using hzero, rfl⟩
    · rw [Nat.toDigits_of_base_le (by decide) (by omega)] at h
      obtain ⟨d, ds', hds', -⟩ := exists_toDigits_cons (n / 10)
      rw [hds', List.cons_append] at h
      obtain ⟨rfl, -⟩ := List.cons.inj h
      have := (ih (n / 10) (by omega) hds').1
      omega

end Numeral

lemma toList_toString_natCast (n : Nat) : (toString (n : Int)).toList = Nat.toDigits 10 n := by
  have h : toString (n : Int) = toString n := rfl
  rw [h, Nat.toString_eq_ofList_toDigits, String.toList_ofList]

/-! ## Hexadecimal digits -/

lemma hexValue?_digitChar : ∀ d < 16, hexValue? d.digitChar = some d := by
  decide

lemma hexValue?_toUpper_digitChar : ∀ d < 16, hexValue? d.digitChar.toUpper = some d := by
  decide

lemma readHex?_append (cs : List Char) (c : Char) :
    readHex? (cs ++ [c]) = (readHex? cs).bind fun n => (hexValue? c).map (16 * n + ·) := by
  simp [readHex?]

/-- Digits that are spelled in some way with the same values denote the same number. -/
lemma readHex?_map_toDigits {spell : Char → Char}
    (hspell : ∀ d < 16, hexValue? (spell d.digitChar) = some d) (n : Nat) :
    readHex? ((Nat.toDigits 16 n).map spell) = some n := by
  induction n using Nat.strongRecOn with
  | ind n ih =>
    by_cases hlt : n < 16
    · rw [Nat.toDigits_of_lt_base hlt]
      simp [readHex?, hspell n hlt]
    · rw [Nat.toDigits_of_base_le (by decide) (by omega), List.map_append, List.map_singleton,
        readHex?_append, ih (n / 16) (by omega), hspell _ (Nat.mod_lt n (by decide))]
      simp only [Option.bind_some, Option.map_some, Option.some.injEq]
      omega

lemma readHex?_zeros {spell : Char → Char} (hzero : spell '0' = '0') (k : Nat) (ds : List Char) :
    readHex? ((List.replicate k '0' ++ ds).map spell) = readHex? (ds.map spell) := by
  induction k with
  | zero => rfl
  | succ k ih =>
    rw [← ih]
    have hvalue : hexValue? '0' = some 0 := by decide
    simp [readHex?, List.replicate_succ, hzero, hvalue]

lemma exists_digitChar_of_mem_toDigits {n : Nat} {c : Char} (h : c ∈ Nat.toDigits 16 n) :
    ∃ d < 16, c = Nat.digitChar d := by
  induction n using Nat.strongRecOn with
  | ind n ih =>
    by_cases hlt : n < 16
    · rw [Nat.toDigits_of_lt_base hlt, List.mem_singleton] at h
      exact ⟨n, hlt, h⟩
    · rw [Nat.toDigits_of_base_le (by decide) (by omega), List.mem_append,
        List.mem_singleton] at h
      rcases h with h | h
      · exact ih (n / 16) (by omega) h
      · exact ⟨n % 16, Nat.mod_lt n (by decide), h⟩

lemma readHex?_hexLower (least n : Nat) : readHex? (hexLower least n) = some n := by
  have h := @readHex?_zeros id rfl (least - (Nat.toDigits 16 n).length)
    (Nat.toDigits 16 n)
  rw [readHex?_map_toDigits hexValue?_digitChar, List.map_id] at h
  exact h

lemma readHex?_hexUpper (least n : Nat) : readHex? (hexUpper least n) = some n := by
  rw [hexUpper, hexLower, readHex?_zeros (by decide),
    readHex?_map_toDigits hexValue?_toUpper_digitChar]

lemma length_hexLower {least n : Nat} (hpos : 0 < least) (h : n < 16 ^ least) :
    (hexLower least n).length = least := by
  have hdigits := Nat.toDigits_length 16 n least hpos h
  rw [hexLower, List.length_append, List.length_replicate]
  omega

lemma length_hexUpper {least n : Nat} (hpos : 0 < least) (h : n < 16 ^ least) :
    (hexUpper least n).length = least := by
  rw [hexUpper, List.length_map, length_hexLower hpos h]

/-! ## Code points -/

lemma isValidChar_toNat (c : Char) : c.toNat.isValidChar :=
  c.valid

lemma toNat_lt_codeSpace (c : Char) : c.toNat < codeSpace := by
  have hvalid := isValidChar_toNat c
  unfold Nat.isValidChar at hvalid
  unfold codeSpace
  omega

lemma toNat_ofNat {n : Nat} (h : n.isValidChar) : (Char.ofNat n).toNat = n := by
  rw [Char.ofNat, dif_pos h]
  rfl

lemma charsOf?_map_toNat (cs : List Char) : charsOf? (cs.map Char.toNat) = some cs := by
  have hvalid : (cs.map Char.toNat).all Nat.isValidChar := by
    simp only [List.all_eq_true, List.mem_map, forall_exists_index, and_imp,
      forall_apply_eq_imp_iff₂]
    exact fun c _ => decide_eq_true (isValidChar_toNat c)
  rw [charsOf?, if_pos hvalid, List.map_map]
  congr 1
  conv_rhs => rw [← List.map_id cs]
  exact List.map_congr_left fun c _ => Char.ofNat_toNat c

lemma charsOf?_eq_some_iff {codes : List Nat} {cs : List Char} :
    charsOf? codes = some cs ↔ codes = cs.map Char.toNat := by
  constructor
  · intro h
    unfold charsOf? at h
    split at h
    · rename_i hvalid
      cases h
      rw [List.all_eq_true] at hvalid
      rw [List.map_map]
      conv_lhs => rw [← List.map_id codes]
      exact List.map_congr_left fun n hn => (toNat_ofNat (of_decide_eq_true (hvalid n hn))).symm
    · cases h
  · rintro rfl
    exact charsOf?_map_toNat cs

@[simp] lemma codes_append (s t : String) : Text.codes (s ++ t) = Text.codes s ++ Text.codes t := by
  simp [Text.codes]

/-- The code points of a text are the text. -/
lemma ofCodes_map_toNat (cs : List Char) :
    Scalar.ofCodes (cs.map Char.toNat) = .str (String.ofList cs) := by
  rw [Scalar.ofCodes, charsOf?_map_toNat]

@[simp] lemma ofCodes_codes (s : String) : Scalar.ofCodes (Text.codes s) = .str s := by
  rw [Text.codes, ofCodes_map_toNat, String.ofList_toList]

/-- A text gives its code points back, whether or not it is whole. -/
@[simp] lemma codes?_ofCodes (codes : List Nat) :
    (Value.scalar (.ofCodes codes)).codes? = some codes := by
  unfold Scalar.ofCodes
  split
  · rename_i cs hcs
    rw [Value.codes?, Text.codes, String.toList_ofList, ← charsOf?_eq_some_iff.mp hcs]
  · rfl

lemma lt_codeSpace_of_mem_codes {s : String} {n : Nat} (h : n ∈ Text.codes s) : n < codeSpace := by
  obtain ⟨c, -, rfl⟩ := List.mem_map.mp h
  exact toNat_lt_codeSpace c

lemma ofCodes_injective : Function.Injective Scalar.ofCodes := by
  intro codes codes' h
  have hcodes := codes?_ofCodes codes
  rw [h, codes?_ofCodes] at hcodes
  exact (Option.some.inj hcodes).symm

/-- No first half of a pair stands directly before a second half. -/
def Text.Unpaired (codes : List Nat) : Prop :=
  codes.IsChain fun n m => ¬(isHighHalf n ∧ isLowHalf m)

/-- A whole text has no halves at all. -/
lemma unpaired_codes (s : String) : Unpaired (Text.codes s) := by
  unfold Unpaired Text.codes
  rw [List.isChain_map]
  refine (List.pairwise_of_forall fun c d hhalves => ?_).isChain
  have hvalid := isValidChar_toNat c
  unfold Nat.isValidChar at hvalid
  simp only [isHighHalf, Bool.and_eq_true, decide_eq_true_eq] at hhalves
  omega

end PrintSpec
