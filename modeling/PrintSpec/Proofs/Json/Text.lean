import PrintSpec.Document.Json.Reader
import PrintSpec.Document.Json.Writer
import PrintSpec.Proofs.Encoding

/-!
# Texts and numbers of a JSON document

A text is written in ASCII with escapes, and a character beyond the basic plane with two of them.
The reader takes the escapes one by one and joins the halves afterwards, so the law is proved in the
same two steps: the written text is read as its units (`readUnits_flatMap_codeText`), and joining the
units of some code points joins these code points (`joinHalves_flatMap_unitsOf`).

The writer does not tell the two halves of a character from two halves that stand side by side by
themselves.  So a text is read back with its pairs joined, and as it was exactly if it has none
(`joinHalves_eq_self_iff`).
-/

namespace PrintSpec.Json

open PrintSpec.Text

/-! ## Units -/

/-- The units of sixteen bits that stand for a code point. -/
def unitsOf (n : Nat) : List Nat :=
  if n ≤ 0xFFFF then [n] else [(halves n).1, (halves n).2]

/-- Puts units in front of those that were read. -/
def withUnits (units : List Nat) (result : Except Error (List Nat × List Char)) :
    Except Error (List Nat × List Char) :=
  result.map fun (more, rest) => (units ++ more, rest)

lemma readUnits_quote (rest : List Char) : readUnits ('"' :: rest) = .ok ([], rest) := by
  rw [readUnits.eq_def]
  simp

lemma readUnits_unitEscape {n : Nat} (h : n ≤ 0xFFFF) (rest : List Char) :
    readUnits (unitEscape n ++ rest) = withUnits [n] (readUnits rest) := by
  have hlength : (hexLower 4 n).length = 4 := length_hexLower (by decide) (by omega)
  obtain ⟨a, b, c, d, hdigits⟩ : ∃ a b c d, hexLower 4 n = [a, b, c, d] := by
    match hexLower 4 n, hlength with
    | [a, b, c, d], _ => exact ⟨a, b, c, d, rfl⟩
  have hread := readHex?_hexLower 4 n
  rw [hdigits] at hread
  rw [unitEscape, hdigits]
  simp only [List.cons_append, List.nil_append]
  rw [readUnits.eq_def]
  simp [hread, withUnits]

lemma readUnits_letter {e m : Char} (hu : e ≠ 'u') (h : letterEscape? e = some m)
    (rest : List Char) :
    readUnits ('\\' :: e :: rest) = withUnits [m.toNat] (readUnits rest) := by
  rw [readUnits.eq_def]
  simp [hu, h, withUnits]

lemma readUnits_plain {c : Char} (hquote : c ≠ '"') (hslash : c ≠ '\\') (hlow : 0x20 ≤ c.toNat)
    (rest : List Char) : readUnits (c :: rest) = withUnits [c.toNat] (readUnits rest) := by
  rw [readUnits.eq_def]
  simp [hquote, hslash, hlow, withUnits]

/-- The three ways to write a character: an escape of one letter, the character itself, and the
escapes of its units. -/
lemma charText_cases (c : Char) :
    (∃ e, charText c = ['\\', e] ∧ e ≠ 'u' ∧ letterEscape? e = some c ∧ c.toNat ≤ 0xFFFF) ∨
      (charText c = [c] ∧ c ≠ '"' ∧ c ≠ '\\' ∧ 0x20 ≤ c.toNat ∧ c.toNat ≤ 0x7E) ∨
        charText c = (unitsOf c.toNat).flatMap unitEscape := by
  by_cases hletter :
      c = '"' ∨ c = '\\' ∨ c = '\n' ∨ c = '\r' ∨ c = '\t' ∨ c = '\x08' ∨ c = '\x0c'
  · left
    rcases hletter with rfl | rfl | rfl | rfl | rfl | rfl | rfl
    · exact ⟨'"', by decide⟩
    · exact ⟨'\\', by decide⟩
    · exact ⟨'n', by decide⟩
    · exact ⟨'r', by decide⟩
    · exact ⟨'t', by decide⟩
    · exact ⟨'b', by decide⟩
    · exact ⟨'f', by decide⟩
  · right
    simp only [not_or] at hletter
    obtain ⟨hquote, hslash, hn, hr, ht, hb, hf⟩ := hletter
    unfold charText
    simp only [hquote, hslash, hn, hr, ht, hb, hf, if_false]
    by_cases hascii : 0x20 ≤ c.toNat ∧ c.toNat ≤ 0x7E
    · exact .inl ⟨if_pos hascii, hquote, hslash, hascii⟩
    · right
      rw [if_neg hascii, unitsOf]
      split <;> simp

lemma withUnits_withUnits (as bs : List Nat) (result : Except Error (List Nat × List Char)) :
    withUnits as (withUnits bs result) = withUnits (as ++ bs) result := by
  cases result <;> simp [withUnits, Except.map]

lemma readUnits_flatMap_unitEscape {units : List Nat} (h : ∀ n ∈ units, n ≤ 0xFFFF)
    (rest : List Char) :
    readUnits (units.flatMap unitEscape ++ rest) = withUnits units (readUnits rest) := by
  induction units with
  | nil => cases hrest : readUnits rest <;> simp [withUnits, Except.map, hrest]
  | cons n units ih =>
    rw [List.flatMap_cons, List.append_assoc, readUnits_unitEscape (h n List.mem_cons_self),
      ih fun m hm => h m (List.mem_cons_of_mem n hm), withUnits_withUnits]
    rfl

lemma halves_le {n : Nat} (hn : n < 0x110000) : (halves n).1 ≤ 0xFFFF ∧ (halves n).2 ≤ 0xFFFF := by
  simp only [halves]
  omega

lemma unitsOf_le {n : Nat} (hn : n < codeSpace) : ∀ m ∈ unitsOf n, m ≤ 0xFFFF := by
  have hhalves := halves_le hn
  unfold unitsOf
  split
  · simpa
  · simpa using hhalves

/-- A written character is read as its units. -/
lemma readUnits_charText (c : Char) (rest : List Char) :
    readUnits (charText c ++ rest) = withUnits (unitsOf c.toNat) (readUnits rest) := by
  rcases charText_cases c with ⟨e, htext, hu, hletter, hc⟩ | ⟨htext, hquote, hslash, hlow, hhigh⟩ |
    htext
  · rw [htext, unitsOf, if_pos hc]
    exact readUnits_letter hu hletter rest
  · rw [htext, unitsOf, if_pos (by omega)]
    exact readUnits_plain hquote hslash hlow rest
  · rw [htext]
    exact readUnits_flatMap_unitEscape (unitsOf_le (toNat_lt_codeSpace c)) rest

/-- A code point that is no character is half of one. -/
lemma le_of_not_isValidChar {n : Nat} (hn : n < codeSpace) (h : ¬n.isValidChar) : n ≤ 0xFFFF := by
  unfold Nat.isValidChar at h
  unfold codeSpace at hn
  omega

lemma readUnits_codeText {n : Nat} (hn : n < codeSpace) (rest : List Char) :
    readUnits (codeText n ++ rest) = withUnits (unitsOf n) (readUnits rest) := by
  by_cases hvalid : n.isValidChar
  · rw [codeText, if_pos hvalid, readUnits_charText, toNat_ofNat hvalid]
  · have hle := le_of_not_isValidChar hn hvalid
    rw [codeText, if_neg hvalid, readUnits_unitEscape hle, unitsOf, if_pos hle]

lemma readUnits_flatMap_codeText {codes : List Nat} (h : ∀ n ∈ codes, n < codeSpace)
    (rest : List Char) :
    readUnits (codes.flatMap codeText ++ '"' :: rest) = .ok (codes.flatMap unitsOf, rest) := by
  induction codes with
  | nil => exact readUnits_quote rest
  | cons n codes ih =>
    rw [List.forall_mem_cons] at h
    rw [List.flatMap_cons, List.append_assoc, readUnits_codeText h.1, ih h.2]
    rfl

/-! ## Joining halves -/

lemma joinHalves_cons {n : Nat} {rest : List Nat}
    (h : ∀ m ∈ rest.head?, ¬(isHighHalf n ∧ isLowHalf m)) :
    joinHalves (n :: rest) = n :: joinHalves rest := by
  cases rest with
  | nil => rfl
  | cons m rest => rw [joinHalves, if_neg (by simpa using h m rfl)]

/-- The halves of a code point beyond the basic plane are joined to it. -/
lemma joinHalves_halves {n : Nat} (hlow : 0xFFFF < n) (hhigh : n < codeSpace) (rest : List Nat) :
    joinHalves ((halves n).1 :: (halves n).2 :: rest) = n :: joinHalves rest := by
  unfold codeSpace at hhigh
  have hpair : isHighHalf (halves n).1 && isLowHalf (halves n).2 := by
    unfold isHighHalf isLowHalf halves
    dsimp only
    simp only [Bool.and_eq_true, decide_eq_true_eq]
    omega
  have hjoined : joined (halves n).1 (halves n).2 = n := by
    unfold joined halves
    dsimp only
    omega
  rw [joinHalves, if_pos hpair, hjoined]

lemma unitsOf_half {n : Nat} (h : isHighHalf n ∨ isLowHalf n) : unitsOf n = [n] := by
  simp only [isHighHalf, isLowHalf, Bool.and_eq_true, decide_eq_true_eq] at h
  rw [unitsOf, if_pos (by omega)]

/-- Only a second half has units that begin with one. -/
lemma isLowHalf_of_head?_unitsOf {n u : Nat} (hn : n < codeSpace) (hu : u ∈ (unitsOf n).head?)
    (h : isLowHalf u) : isLowHalf n := by
  unfold unitsOf at hu
  split at hu
  · rwa [Option.mem_some_iff.mp hu]
  · obtain rfl : (halves n).1 = u := Option.mem_some_iff.mp hu
    unfold isLowHalf halves at h
    dsimp only at h
    simp only [Bool.and_eq_true, decide_eq_true_eq] at h
    unfold codeSpace at hn
    omega

/-- **Joining the units of some code points joins the code points.** -/
lemma joinHalves_flatMap_unitsOf {codes : List Nat} (h : ∀ n ∈ codes, n < codeSpace) :
    joinHalves (codes.flatMap unitsOf) = joinHalves codes := by
  -- the units of one code point, in front of units that do not complete a pair with it
  have hfront : ∀ {n : Nat} {rest : List Nat}, n < codeSpace →
      (∀ m ∈ rest.head?, ¬(isHighHalf n ∧ isLowHalf m)) →
      joinHalves (unitsOf n ++ rest) = n :: joinHalves rest := by
    intro n rest hn hrest
    unfold unitsOf
    split
    · exact joinHalves_cons hrest
    · exact joinHalves_halves (by omega) hn rest
  fun_induction joinHalves codes with
  | case1 => rfl
  | case2 n =>
    rw [List.flatMap_cons]
    exact hfront (h n (by simp)) (by simp)
  | case3 n m rest hpair ih =>
    simp only [Bool.and_eq_true] at hpair
    rw [List.flatMap_cons, List.flatMap_cons, unitsOf_half (.inl hpair.1), unitsOf_half (.inr hpair.2),
      List.singleton_append, List.singleton_append, joinHalves, if_pos (by simpa using hpair),
      ih fun k hk => h k (by simp [hk])]
  | case4 n m rest hpair ih =>
    rw [List.flatMap_cons, hfront (h n (by simp)), ih fun k hk => h k (List.mem_cons_of_mem n hk)]
    intro u hu hhalves
    rw [List.flatMap_cons, List.head?_append_of_ne_nil _ (by unfold unitsOf; split <;> simp)] at hu
    have hlow := isLowHalf_of_head?_unitsOf (h m (by simp)) hu hhalves.2
    exact hpair (by simpa using ⟨hhalves.1, hlow⟩)

/-- **Only texts without pairs are unchanged by joining.** -/
lemma joinHalves_eq_self_iff {codes : List Nat} : joinHalves codes = codes ↔ Unpaired codes := by
  unfold Unpaired
  fun_induction joinHalves codes with
  | case1 => simp
  | case2 n => simp
  | case3 n m rest hpair ih =>
    simp only [Bool.and_eq_true] at hpair
    have hne : joined n m ≠ n := by
      simp only [isHighHalf, Bool.and_eq_true, decide_eq_true_eq] at hpair
      unfold joined
      omega
    refine iff_of_false (fun heq => hne (List.cons.inj heq).1) fun hchain => ?_
    exact (List.isChain_cons_cons.mp hchain).1 hpair
  | case4 n m rest hpair ih =>
    simp only [Bool.and_eq_true] at hpair
    rw [List.isChain_cons_cons, ← ih]
    simp [hpair]

/-! ## Texts -/

/-- A text that is written by its code points is read with its pairs of halves joined. -/
lemma readString_codes {codes : List Nat} (h : ∀ n ∈ codes, n < codeSpace) (rest : List Char) :
    readString (codes.flatMap codeText ++ '"' :: rest) = .ok (.ofCodes (joinHalves codes), rest) := by
  rw [readString, readUnits_flatMap_codeText h]
  simp only [Except.map, joinHalves_flatMap_unitsOf h]

/-- A whole text is read back. -/
lemma readString_stringText (s : String) (rest : List Char) :
    readString (s.toList.flatMap charText ++ '"' :: rest) = .ok (.str s, rest) := by
  have htext : (Text.codes s).flatMap codeText = s.toList.flatMap charText := by
    rw [Text.codes, List.flatMap_map]
    refine List.flatMap_congr fun c _ => ?_
    rw [codeText, if_pos (isValidChar_toNat c), Char.ofNat_toNat]
  rw [← htext, readString_codes fun n => lt_codeSpace_of_mem_codes,
    joinHalves_eq_self_iff.mpr (unpaired_codes s), ofCodes_codes]

end PrintSpec.Json
