import PrintSpec.Proofs.PatternOrder
import PrintSpec.Proofs.WellFormed

/-!
# Spellings of a field

A field is written as a bare number, as a number after a `%`, or as one between the braces of a `%`
block.  The digits may come from any script and may begin with zeros.  None of that reaches the
program: every spelling is one token, and the token holds the number alone, which is written into
the program in its shortest form.

A text that a pattern covers as a whole is one piece, whatever the pattern is
(`cutWith_of_accepts`), so the three spellings differ only in the pattern that finds them.  The
shortest form is the one decimal text of the number (`IsDecimal.unique`), and a program of one
fragment shows its fragment, so spellings of different fields have different programs.
-/

namespace PrintSpec

open PrintSpec.Text PrintSpec.Awk

/-! ## Decimal texts -/

/-- A text of ASCII digits that denotes the number, and begins with a zero only if it is a zero. -/
structure IsDecimal (text : String) (n : Nat) : Prop where
  ne_empty : text ≠ ""
  ascii : ∀ c ∈ text.toList, c.isDigit
  leading : text.toList.head? = some '0' → text = "0"
  value : Nat.ofDigits 10 (text.toList.reverse.map digitValue) = n

lemma digitChar_digitValue {c : Char} (h : c.isDigit) : (digitValue c).digitChar = c := by
  have hrange : 48 ≤ c.toNat ∧ c.toNat ≤ 57 := by
    simpa [Char.isDigit_iff_toNat] using h
  have hchar : ∀ k < 10, Nat.digitChar k = Char.ofNat (k + 48) := by decide
  have hsub : c.toNat - 48 + 48 = c.toNat := by omega
  rw [digitValue_of_isDigit h, show '0'.toNat = 48 from rfl, hchar _ (by omega), hsub,
    Char.ofNat_toNat]

/-- A number is written as its decimal text. -/
lemma isDecimal_toString (n : Nat) : IsDecimal (toString n) n := by
  have htext : (toString n).toList = Nat.toDigits 10 n := toList_toString_natCast n
  refine ⟨?_, ?_, ?_, ?_⟩
  · intro hempty
    have hdigits : Nat.toDigits 10 n = [] := by simpa [hempty] using htext.symm
    exact Nat.toDigits_ne_nil hdigits
  · rw [htext]
    exact fun c hc => Nat.isDigit_of_mem_toDigits (by decide) (by decide) hc
  · intro hhead
    rw [htext] at hhead
    obtain ⟨ds, hds⟩ := List.head?_eq_some_iff.mp hhead
    obtain ⟨rfl, -⟩ := Numeral.toDigits_of_leading_zero hds
    rfl
  · rw [htext, ← Numeral.ofDigits_eq, Numeral.ofDigits_toDigits]

namespace IsDecimal

/-- A decimal text other than the zero shows the digits of its number. -/
lemma digits_eq {text : String} {n : Nat} (h : IsDecimal text n) (hzero : text ≠ "0") :
    Nat.digits 10 n = text.toList.reverse.map digitValue := by
  rw [← h.value]
  apply Nat.digits_ofDigits 10 (by decide)
  · intro d hd
    obtain ⟨c, -, rfl⟩ := List.mem_map.mp hd
    have := digitValue_le_nine c
    omega
  · -- the last digit of the list is the one that the text begins with
    intro hne hlast
    obtain ⟨c, cs, hcs⟩ := List.exists_cons_of_ne_nil (l := text.toList) (by simpa using hne)
    have hc : digitValue c = 0 := by simpa [hcs] using hlast
    have hchar := digitChar_digitValue (h.ascii c (by simp [hcs]))
    rw [hc] at hchar
    exact hzero (h.leading (by rw [hcs, ← hchar]; rfl))

/-- The text is the zero exactly if the number is. -/
lemma text_eq_zero_iff {text : String} {n : Nat} (h : IsDecimal text n) : text = "0" ↔ n = 0 := by
  constructor
  · rintro rfl
    rw [← h.value]
    decide
  · rintro rfl
    by_contra hne
    have hdigits := h.digits_eq hne
    rw [Nat.digits_zero, eq_comm, List.map_eq_nil_iff, List.reverse_eq_nil_iff,
      String.toList_eq_nil_iff] at hdigits
    exact h.ne_empty hdigits

/-- Any other text is known from the digits of its number. -/
lemma toList_eq {text : String} {n : Nat} (h : IsDecimal text n) (hn : n ≠ 0) :
    text.toList = (Nat.digits 10 n).reverse.map Nat.digitChar := by
  have hback : text.toList.map (Nat.digitChar ∘ digitValue) = text.toList :=
    (List.map_congr_left fun c hc => digitChar_digitValue (h.ascii c hc)).trans (List.map_id _)
  rw [h.digits_eq fun htext => hn (h.text_eq_zero_iff.mp htext), ← List.map_reverse,
    List.reverse_reverse, List.map_map, hback]

/-- Each number has one decimal text. -/
lemma unique {text text' : String} {n : Nat} (h : IsDecimal text n) (h' : IsDecimal text' n) :
    text = text' := by
  by_cases hn : n = 0
  · rw [h.text_eq_zero_iff.mpr hn, h'.text_eq_zero_iff.mpr hn]
  · apply String.toList_inj.mp
    rw [h.toList_eq hn, h'.toList_eq hn]

end IsDecimal

/-! ## Programs of one field -/

/-- The program of a print specification, if its arguments can be read and compiled. -/
def programOf? (args : List String) : Option Program :=
  (Group.ofArguments args).toOption.bind fun groups => (Program.ofGroups groups).toOption

/-- The fragment of a field whose number is written in some way. -/
def fieldFragment (fromEnd : Bool) (number : String) : String :=
  if fromEnd then "_fp_field_from_end(" ++ number ++ ")" else "$" ++ number

lemma fieldFragment_inj {fromEnd fromEnd' : Bool} {number number' : String} :
    fieldFragment fromEnd number = fieldFragment fromEnd' number' ↔
      fromEnd = fromEnd' ∧ number = number' := by
  cases fromEnd <;> cases fromEnd' <;> simp [fieldFragment, ← String.toList_inj]

/-- A program of one fragment shows its fragment. -/
lemma render_one_inj {fragment fragment' : String} :
    ({ groups := [[fragment]] } : Program).render = ({ groups := [[fragment']] } : Program).render ↔
      fragment = fragment' := by
  simp [Program.render, Program.action, Program.printArguments, Program.closeLast,
    Program.expression]

/-- An argument that is one field compiles to one fragment. -/
lemma programOf?_fieldOf {argument : String} {fromEnd : Bool} {n : Nat}
    (h : tokenize argument = .ok [⟨argument, fieldOf fromEnd n⟩]) :
    programOf? [argument] = some { groups := [[fieldFragment fromEnd (toString n)]] } := by
  have hgroups : Group.ofArguments [argument] =
      .ok [⟨argument, [⟨argument, fieldOf fromEnd n⟩]⟩] := by
    rw [Group.ofArguments, mapM_eq_ok_iff]
    exact .cons (by rw [Group.ofArgument, h]; rfl) .nil
  rw [programOf?, hgroups]
  cases fromEnd <;> rfl

/-! ## Spellings -/

/-- The text of a field number: digits of any script, not too many to be read, which count from the
end if a minus stands before them. -/
structure FieldNumeral where
  fromEnd : Bool
  digits : List Char
  isDigits : IsDigits digits
  length_le : digits.length ≤ Numeral.digitLimit

namespace FieldNumeral

/-- The digits with their sign. -/
def text (d : FieldNumeral) : List Char :=
  signed d.fromEnd d.digits

/-- The number that the digits denote in base ten. -/
def value (d : FieldNumeral) : Nat :=
  Nat.ofDigits 10 (d.digits.reverse.map digitValue)

lemma isNumber (d : FieldNumeral) : Matcher.IsNumber d.text :=
  Matcher.isNumber_iff_signed.mpr ⟨d.fromEnd, d.digits, d.isDigits, rfl⟩

lemma fieldBody_text (d : FieldNumeral) :
    Matcher.fieldBody d.text = .ok (fieldOf d.fromEnd d.value) := by
  have hread : Numeral.readDigits d.digits = .ok d.value := by
    rw [Numeral.readDigits, if_neg (by have := d.length_le; omega), Numeral.ofDigits_eq]
    rfl
  rw [text, Matcher.fieldBody_signed _ d.isDigits, hread]
  rfl

/-- Every spelling of a field is one token, which holds the number alone. -/
lemma tokenize_spelling (d : FieldNumeral) {argument : String}
    (h : SpellsField argument.toList d.text) :
    tokenize argument = .ok [⟨argument, fieldOf d.fromEnd d.value⟩] := by
  have hbody : ∀ {m : Matcher}, m.Accepts argument.toList d.text →
      m.body d.text = .ok (fieldOf d.fromEnd d.value) →
        tokenize argument = .ok [⟨argument, fieldOf d.fromEnd d.value⟩] := by
    intro m haccepts hbody
    rw [tokenize_of_accepts haccepts, hbody]
    rfl
  rcases h with hraw | hraw | hraw
  · exact hbody (m := .implicitField) ⟨hraw, d.isNumber⟩ d.fieldBody_text
  · exact hbody (m := .explicitField) ⟨hraw, d.isNumber⟩ d.fieldBody_text
  · have hbrace : '}' ∉ d.text := d.isNumber.not_mem (by decide) (by decide)
    refine hbody (m := .bracedField) ⟨hraw, hbrace⟩ ?_
    show Matcher.bracedBody d.text = _
    rw [Matcher.bracedBody, if_pos (Matcher.isSignedDigits_iff.mpr d.isNumber), d.fieldBody_text]

end FieldNumeral

/-- **The spellings of a field are interchangeable.**  Each of the three is one token, and all three
have the same program, whose only fragment names the field by the decimal text of its number.  So
two spellings have the same program exactly if they count from the same side and denote the same
number. -/
theorem spellings_have_same_program (d : FieldNumeral) :
    ∃ number, IsDecimal number d.value ∧ (∀ text, IsDecimal text d.value → text = number) ∧
      (∀ argument : String, SpellsField argument.toList d.text →
        tokenize argument = .ok [⟨argument, fieldOf d.fromEnd d.value⟩] ∧
          programOf? [argument] = some { groups := [[fieldFragment d.fromEnd number]] }) ∧
      ∀ (e : FieldNumeral) (argument argument' : String), SpellsField argument.toList d.text →
        SpellsField argument'.toList e.text →
          ((programOf? [argument]).map Program.render =
              (programOf? [argument']).map Program.render ↔
            d.fromEnd = e.fromEnd ∧ d.value = e.value) := by
  have hdecimal := isDecimal_toString d.value
  refine ⟨toString d.value, hdecimal, fun text h => h.unique hdecimal, ?_, ?_⟩
  · intro argument h
    have htokens := d.tokenize_spelling h
    exact ⟨htokens, programOf?_fieldOf htokens⟩
  · intro e argument argument' h h'
    rw [programOf?_fieldOf (d.tokenize_spelling h), programOf?_fieldOf (e.tokenize_spelling h'),
      Option.map_some, Option.map_some, Option.some.injEq, render_one_inj, fieldFragment_inj]
    refine and_congr_right fun _ => ⟨fun htext => ?_, fun hvalue => by rw [hvalue]⟩
    rw [htext] at hdecimal
    exact hdecimal.value.symm.trans (isDecimal_toString e.value).value

/-- A seven after two zeros in Arabic-Indic digits, between braces, and a bare seven. -/
theorem spellings_have_same_program_padded_seven :
    ∃ d e : FieldNumeral, SpellsField "%\x7b-٠٠٧\x7d".toList d.text ∧
      SpellsField "-7".toList e.text ∧
        (programOf? ["%\x7b-٠٠٧\x7d"]).map Program.render =
          (programOf? ["-7"]).map Program.render := by
  let d : FieldNumeral :=
    ⟨true, ['٠', '٠', '٧'], ⟨by simp, List.all_eq_true.mp (by decide)⟩, by decide⟩
  let e : FieldNumeral := ⟨true, ['7'], ⟨by simp, List.all_eq_true.mp (by decide)⟩, by decide⟩
  have hd : SpellsField "%\x7b-٠٠٧\x7d".toList d.text := Or.inr (Or.inr (by decide))
  have he : SpellsField "-7".toList e.text := Or.inl (by decide)
  obtain ⟨number, -, -, -, hsame⟩ := spellings_have_same_program d
  exact ⟨d, e, hd, he, (hsame e _ _ hd he).mpr ⟨rfl, by decide⟩⟩

end PrintSpec
