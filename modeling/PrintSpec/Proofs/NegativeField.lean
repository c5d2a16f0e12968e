import PrintSpec.Proofs.ArgumentSplit
import PrintSpec.Proofs.PatternOrder
import PrintSpec.Proofs.Slices

/-!
# Options and fields that begin with a minus

An argument that begins with a minus is an option of the engine, or a field that counts from the
end.  Splitting a command line tells the two apart by a test of its own, a minus and digits, and
does not look for tokens.  The tokens come later and from patterns that go on as far as they can.

Both come to the same.  The only pattern whose texts begin with a minus is the one for bare numbers,
so the argument is a single field exactly if all of it is a number, and after a minus that leaves
digits (`isNumber_minus_iff`).
-/

namespace PrintSpec

namespace Matcher

lemma isNumber_minus_iff {rest : List Char} : IsNumber ('-' :: rest) ↔ IsDigits rest := by
  constructor
  · rintro ⟨digits, hne, hdigits, rfl | htext⟩
    · have hminus := hdigits '-' List.mem_cons_self
      simp at hminus
    · obtain rfl : rest = digits := by simpa using htext
      exact ⟨hne, hdigits⟩
  · intro h
    exact ⟨rest, h.ne_nil, h.digits, Or.inr rfl⟩

end Matcher

/-! ## Tokens after a minus -/

section

variable {argument : String} {rest : List Char} (hargument : argument.toList = '-' :: rest)

include hargument

/-- A minus and digits is one field, if the digits are not too many to be read. -/
lemma tokenize_minus_digits (h : IsDigits rest) :
    tokenize argument =
      (Numeral.readDigits rest).map fun n => [⟨argument, .fieldFromEnd n⟩] := by
  have haccepts : Matcher.implicitField.Accepts argument.toList ('-' :: rest) :=
    ⟨hargument, Matcher.isNumber_minus_iff.mpr h⟩
  have hbody : Matcher.implicitField.body ('-' :: rest) =
      (Numeral.readDigits rest).map .fieldFromEnd := rfl
  rw [tokenize_of_accepts haccepts, hbody]
  cases Numeral.readDigits rest <;> rfl

/-- A single token that is not plain text is a number, since no other pattern begins with a
minus. -/
lemma isDigits_of_tokenize_minus {body : Body} (h : tokenize argument = .ok [⟨argument, body⟩])
    (hkind : body.kind ≠ .plainText) : IsDigits rest := by
  have hplaced := placed_raw_of_tokenize h List.mem_cons_self
  obtain ⟨m, payload, haccepts, -⟩ := hplaced.accepts hkind
  rw [hargument] at haccepts
  obtain rfl : m = .implicitField :=
    Matcher.eq_ofOpening_of_accepts (List.prefix_refl _) haccepts
  obtain ⟨rfl, hnumber⟩ := haccepts
  exact Matcher.isNumber_minus_iff.mp hnumber

end

/-! ## The test for an option -/

namespace Arguments

lemma isOption_minus_eq_false_iff {argument : String} {rest : List Char}
    (hargument : argument.toList = '-' :: rest) :
    isOption argument = false ↔ IsDigits rest := by
  rw [← Bool.not_eq_true, isOption_iff, LooksLikeOption, hargument]
  constructor
  · intro h
    by_contra hdigits
    exact h ⟨rest, rfl, hdigits⟩
  · rintro hdigits ⟨rest', hrest, hother⟩
    obtain rfl : rest = rest' := by simpa using hrest
    exact hother hdigits

/-- The first argument of a print specification that no separator sets apart is not an option. -/
lemma isOption_eq_false_of_head? {args : List String} (hsep : separator ∉ args) {argument : String}
    (h : (split args).spec.head? = some argument) : isOption argument = false := by
  rw [← Bool.not_eq_true, isOption_iff]
  exact ((lawful_split args).atFirstOther hsep).2.2 argument h

/-- **Options and tokens agree on fields that count from the end.**  An argument that begins with a
minus does not look like an option exactly if it is a single token, which is a field counted from
the end and covers all of it.  So where no separator is given and a print specification begins with
such an argument, the argument is a minus and digits, and is that one field unless its number is too
long to be read. -/
theorem not_option_iff_one_field {argument : String} (hminus : argument.toList.head? = some '-') :
    (∀ tokens, tokenize argument = .ok tokens →
      (isOption argument = false ↔
        ∃ t, tokens = [t] ∧ t.body.kind = .fieldNegative ∧ t.raw = argument)) ∧
    ∀ args, separator ∉ args → (split args).spec.head? = some argument →
      ∃ digits, argument.toList = '-' :: digits ∧ IsDigits digits ∧
        tokenize argument =
          (Numeral.readDigits digits).map fun n => [⟨argument, .fieldFromEnd n⟩] := by
  obtain ⟨rest, hargument⟩ := List.head?_eq_some_iff.mp hminus
  constructor
  · intro tokens htokens
    rw [isOption_minus_eq_false_iff hargument]
    constructor
    · intro hdigits
      rw [tokenize_minus_digits hargument hdigits] at htokens
      obtain ⟨n, -, rfl⟩ := map_eq_ok_iff.mp htokens
      exact ⟨_, rfl, rfl, rfl⟩
    · rintro ⟨⟨raw, body⟩, rfl, hkind, rfl⟩
      exact isDigits_of_tokenize_minus hargument htokens (by rw [hkind]; decide)
  · intro args hsep hhead
    have hother := isOption_eq_false_of_head? hsep hhead
    have hdigits := (isOption_minus_eq_false_iff hargument).mp hother
    exact ⟨rest, hargument, hdigits, tokenize_minus_digits hargument hdigits⟩

/-- A minus and an Arabic-Indic three after an option, where the print specification begins. -/
theorem not_option_iff_one_field_three :
    tokenize "-٣" = .ok [⟨"-٣", .fieldFromEnd 3⟩] ∧ isOption "-٣" = false ∧
    (split ["-F:", "-٣", "-x"]).spec.head? = some "-٣" ∧
    ∃ digits, "-٣".toList = '-' :: digits ∧ IsDigits digits := by
  have hminus : "-٣".toList.head? = some '-' := by decide
  have htokens : tokenize "-٣" = .ok [⟨"-٣", .fieldFromEnd 3⟩] := by decide +kernel
  have hhead : (split ["-F:", "-٣", "-x"]).spec.head? = some "-٣" := by decide
  obtain ⟨hagree, hstart⟩ := not_option_iff_one_field hminus
  obtain ⟨digits, htext, hdigits, -⟩ := hstart _ (by decide) hhead
  exact ⟨htokens, (hagree _ htokens).mpr ⟨_, rfl, rfl, rfl⟩, hhead, digits, htext, hdigits⟩

end Arguments

end PrintSpec
