import Mathlib.Data.List.TakeWhile
import PrintSpec.Proofs.Cutting

/-!
# What the patterns recognise

The texts of the seven patterns are given here as languages, each text with the part of it that
carries its meaning.  A pattern matches at the start of a text if some beginning of the text is in
its language, and then it covers the longest one.

`Recognises` ties a search to a language, and is shown once for each of the three kinds of search:
doubled sigils, numbers after a sigil, and braces.  From it `Matcher.matches_iff` says that the
search for a pattern finds exactly what the pattern matches.
-/

namespace PrintSpec

open PrintSpec.Text

@[simp] lemma isDigit_minus : isDigit '-' = false := by decide

namespace Matcher

/-! ## The languages -/

/-- An optional minus and at least one digit. -/
def IsNumber (cs : List Char) : Prop :=
  ∃ digits, digits ≠ [] ∧ (∀ c ∈ digits, isDigit c) ∧ (cs = digits ∨ cs = '-' :: digits)

/-- A sigil written twice, which stands for one. -/
def Doubled (sigil : Char) (text payload : List Char) : Prop :=
  text = [sigil, sigil] ∧ payload = [sigil]

/-- A number after a few fixed characters. -/
def NumberAfter (skipped text payload : List Char) : Prop :=
  text = skipped ++ payload ∧ IsNumber payload

/-- A sigil and text between braces, which goes up to the first closing brace. -/
def Braced (sigil : Char) (text payload : List Char) : Prop :=
  text = sigil :: '{' :: (payload ++ ['}']) ∧ '}' ∉ payload

/-- The texts of a pattern, each with the part of it that carries the meaning. -/
def Accepts : Matcher → List Char → List Char → Prop
  | escapedAt => Doubled '@'
  | escapedPercent => Doubled '%'
  | literalNumber => NumberAfter ['@']
  | literalBlock => Braced '@'
  | bracedField => Braced '%'
  | explicitField => NumberAfter ['%']
  | implicitField => NumberAfter []

/-- A pattern matches at the start of `cs`: it covers the longest beginning that is one of its
texts. -/
structure Matches (m : Matcher) (cs text payload : List Char) : Prop where
  isPrefix : text <+: cs
  accepts : m.Accepts text payload
  longest : ∀ text' payload', text' <+: cs → m.Accepts text' payload' →
    text'.length ≤ text.length

/-- A search finds a longest text of a language whenever there is one. -/
structure Recognises (find : List Char → Option Match)
    (accepts : List Char → List Char → Prop) : Prop where
  sound : ∀ cs found, find cs = some found → accepts (cs.take found.size) found.payload
  complete : ∀ cs text payload, text <+: cs → accepts text payload →
    ∃ found, find cs = some found ∧ text.length ≤ found.size
  payload_unique : ∀ text payload payload', accepts text payload → accepts text payload' →
    payload = payload'

/-! ## Numbers -/

lemma signedDigits_of_minus (cs : List Char) :
    signedDigits ('-' :: cs) =
      if (cs.takeWhile isDigit).isEmpty then [] else '-' :: cs.takeWhile isDigit := rfl

lemma signedDigits_of_ne_minus {cs : List Char} (h : cs.head? ≠ some '-') :
    signedDigits cs = cs.takeWhile isDigit := by
  unfold signedDigits
  split
  · exact absurd rfl h
  · rfl

lemma signedDigits_isPrefix (cs : List Char) : signedDigits cs <+: cs := by
  by_cases h : cs.head? = some '-'
  · obtain ⟨rest, rfl⟩ : ∃ rest, cs = '-' :: rest := List.head?_eq_some_iff.mp h
    rw [signedDigits_of_minus]
    split
    · exact List.nil_prefix
    · exact (List.prefix_cons_inj '-').mpr (List.takeWhile_prefix _)
  · rw [signedDigits_of_ne_minus h]
    exact List.takeWhile_prefix _

lemma isNumber_signedDigits {cs : List Char} (h : signedDigits cs ≠ []) :
    IsNumber (signedDigits cs) := by
  have hdigits : ∀ cs : List Char, ∀ c ∈ cs.takeWhile isDigit, isDigit c :=
    fun cs c hc => List.mem_takeWhile_imp hc
  by_cases hminus : cs.head? = some '-'
  · obtain ⟨rest, rfl⟩ : ∃ rest, cs = '-' :: rest := List.head?_eq_some_iff.mp hminus
    rw [signedDigits_of_minus] at h ⊢
    split at h
    · exact absurd rfl h
    · rename_i hne
      rw [if_neg hne]
      exact ⟨rest.takeWhile isDigit, by simpa using hne, hdigits rest, Or.inr rfl⟩
  · rw [signedDigits_of_ne_minus hminus] at h ⊢
    exact ⟨cs.takeWhile isDigit, h, hdigits cs, Or.inl rfl⟩

/-- The digits at the start of a text are the longest beginning that is all digits. -/
lemma isPrefix_takeWhile {p : Char → Bool} {ds cs : List Char} (hds : ∀ c ∈ ds, p c)
    (h : ds <+: cs) : ds <+: cs.takeWhile p := by
  obtain ⟨rest, rfl⟩ := h
  rw [List.takeWhile_append_of_pos hds]
  exact List.prefix_append _ _

/-- No number at the start of a text goes beyond its signed digits. -/
lemma isPrefix_signedDigits {n cs : List Char} (hn : IsNumber n) (h : n <+: cs) :
    n <+: signedDigits cs := by
  obtain ⟨ds, hne, hds, rfl | rfl⟩ := hn
  · have hminus : cs.head? ≠ some '-' := by
      obtain ⟨d, ds, rfl⟩ := List.exists_cons_of_ne_nil hne
      obtain ⟨rest, rfl⟩ := h
      have hd : isDigit d := hds d List.mem_cons_self
      rintro hhead
      obtain rfl : d = '-' := by simpa using hhead
      simp at hd
    rw [signedDigits_of_ne_minus hminus]
    exact isPrefix_takeWhile hds h
  · obtain ⟨rest, rfl⟩ := h
    have hprefix := isPrefix_takeWhile hds (List.prefix_append ds rest)
    have hnonempty : ¬ ((ds ++ rest).takeWhile isDigit).isEmpty := by
      intro hempty
      rw [List.isEmpty_iff.mp hempty, List.prefix_nil] at hprefix
      exact hne hprefix
    rw [List.cons_append, signedDigits_of_minus, if_neg hnonempty]
    exact (List.prefix_cons_inj '-').mpr hprefix

lemma IsNumber.ne_nil {cs : List Char} (h : IsNumber cs) : cs ≠ [] := by
  obtain ⟨ds, hne, -, rfl | rfl⟩ := h
  · exact hne
  · simp

/-- What a search for a number finds is a number at the start of the text. -/
lemma isNumber_of_findNumber {skipped : Nat} {cs : List Char} {found : Match}
    (h : findNumber skipped cs = some found) :
    IsNumber found.payload ∧ found.payload <+: cs ∧
      found.size = skipped + found.payload.length := by
  unfold findNumber at h
  split at h
  · cases h
  · rename_i d ds hdigits
    cases h
    rw [← hdigits]
    refine ⟨isNumber_signedDigits (by simp [hdigits]), signedDigits_isPrefix cs, ?_⟩
    simp [hdigits]

/-- Where a text starts with a number, the search finds one that is at least as long. -/
lemma exists_findNumber {n cs : List Char} (hn : IsNumber n) (h : n <+: cs) (skipped : Nat) :
    ∃ found, findNumber skipped cs = some found ∧ skipped + n.length ≤ found.size := by
  have hlongest := isPrefix_signedDigits hn h
  unfold findNumber
  split
  · rename_i hdigits
    rw [hdigits, List.prefix_nil] at hlongest
    exact absurd hlongest hn.ne_nil
  · rename_i d ds hdigits
    rw [hdigits] at hlongest
    refine ⟨_, rfl, ?_⟩
    simpa using hlongest.length_le

/-! ## The searches -/

lemma recognises_doubled (sigil : Char) : Recognises (findDoubled sigil) (Doubled sigil) where
  sound := by
    intro cs found h
    match cs with
    | [] => simp [findDoubled] at h
    | [a] => simp [findDoubled] at h
    | a :: b :: rest =>
      rw [findDoubled, Option.ite_none_right_eq_some] at h
      obtain ⟨⟨rfl, rfl⟩, hfound⟩ := h
      cases hfound
      exact ⟨rfl, rfl⟩
  complete := by
    rintro cs text payload ⟨rest, rfl⟩ ⟨rfl, rfl⟩
    exact ⟨⟨2, [sigil], by omega⟩, by simp [findDoubled], by simp⟩
  payload_unique := by
    rintro text payload payload' ⟨-, rfl⟩ ⟨-, rfl⟩
    rfl

lemma recognises_number : Recognises (findNumber 0) (NumberAfter []) where
  sound := by
    intro cs found h
    obtain ⟨hnumber, hprefix, hsize⟩ := isNumber_of_findNumber h
    rw [hsize, Nat.zero_add, ← List.prefix_iff_eq_take.mp hprefix]
    exact ⟨rfl, hnumber⟩
  complete := by
    rintro cs text payload hprefix ⟨rfl, hnumber⟩
    simpa using exists_findNumber hnumber hprefix 0
  payload_unique := by
    rintro text payload payload' ⟨rfl, -⟩ ⟨h, -⟩
    simpa using h

lemma recognises_sigilNumber (sigil : Char) :
    Recognises (findSigilNumber sigil) (NumberAfter [sigil]) where
  sound := by
    intro cs found h
    cases cs with
    | nil => simp [findSigilNumber] at h
    | cons s rest =>
      rw [findSigilNumber, Option.ite_none_right_eq_some] at h
      obtain ⟨rfl, hfound⟩ := h
      obtain ⟨hnumber, hprefix, hsize⟩ := isNumber_of_findNumber hfound
      rw [hsize, Nat.add_comm, List.take_succ_cons, ← List.prefix_iff_eq_take.mp hprefix]
      exact ⟨rfl, hnumber⟩
  complete := by
    rintro cs text payload ⟨rest, rfl⟩ ⟨rfl, hnumber⟩
    obtain ⟨found, hfound, hsize⟩ :=
      exists_findNumber hnumber (List.prefix_append payload rest) 1
    refine ⟨found, ?_, ?_⟩
    · simpa [findSigilNumber] using hfound
    · simpa [Nat.add_comm] using hsize
  payload_unique := by
    rintro text payload payload' ⟨rfl, -⟩ ⟨h, -⟩
    simpa using h

/-- The text between braces goes up to the first closing brace. -/
lemma untilBrace_eq_some_iff {cs inner : List Char} :
    untilBrace cs = some inner ↔ '}' ∉ inner ∧ inner ++ ['}'] <+: cs := by
  have htake : ∀ {before after : List Char}, '}' ∉ before →
      (before ++ '}' :: after).takeWhile (· ≠ '}') = before := by
    intro before after h
    have hpos : ∀ c ∈ before, decide (c ≠ '}') = true := by
      intro c hc
      rw [decide_eq_true_eq]
      rintro rfl
      exact h hc
    rw [List.takeWhile_append_of_pos hpos]
    simp
  rw [untilBrace, Option.ite_none_right_eq_some, List.contains_iff_mem, Option.some.injEq]
  constructor
  · rintro ⟨hmem, rfl⟩
    obtain ⟨before, after, rfl, hbefore⟩ := List.eq_append_cons_of_mem hmem
    rw [htake hbefore]
    exact ⟨hbefore, after, by simp⟩
  · rintro ⟨hinner, rest, rfl⟩
    rw [List.append_assoc, List.singleton_append, htake hinner]
    exact ⟨by simp, rfl⟩

lemma recognises_braced (sigil : Char) : Recognises (findBraced sigil) (Braced sigil) where
  sound := by
    intro cs found h
    unfold findBraced at h
    split at h
    · rename_i s rest
      rw [Option.ite_none_right_eq_some, Option.map_eq_some_iff] at h
      obtain ⟨rfl, inner, hinner, rfl⟩ := h
      obtain ⟨hbrace, rest, rfl⟩ := untilBrace_eq_some_iff.mp hinner
      have htake : (inner ++ ['}'] ++ rest).take (inner.length + 1) = inner ++ ['}'] :=
        List.take_left' (by simp)
      refine ⟨?_, hbrace⟩
      rw [List.take_succ_cons, List.take_succ_cons, htake]
    · cases h
  complete := by
    rintro cs text payload ⟨rest, rfl⟩ ⟨rfl, hbrace⟩
    have hinner : untilBrace (payload ++ ['}'] ++ rest) = some payload :=
      untilBrace_eq_some_iff.mpr ⟨hbrace, List.prefix_append _ _⟩
    refine ⟨⟨payload.length + 3, payload, by omega⟩, ?_, by simp⟩
    simp only [findBraced, List.cons_append, if_true, hinner, Option.map_some]
  payload_unique := by
    rintro text payload payload' ⟨rfl, -⟩ ⟨h, -⟩
    simpa using h

/-- The search for a pattern goes by the language of the pattern. -/
lemma recognises (m : Matcher) : Recognises m.find m.Accepts := by
  cases m with
  | escapedAt => exact recognises_doubled '@'
  | escapedPercent => exact recognises_doubled '%'
  | literalNumber => exact recognises_sigilNumber '@'
  | literalBlock => exact recognises_braced '@'
  | bracedField => exact recognises_braced '%'
  | explicitField => exact recognises_sigilNumber '%'
  | implicitField => exact recognises_number

/-! ## Matches -/

/-- A pattern matches exactly what the search for it finds. -/
lemma matches_iff {m : Matcher} {cs text payload : List Char} :
    m.Matches cs text payload ↔
      ∃ found, m.find cs = some found ∧ text = cs.take found.size ∧ payload = found.payload := by
  constructor
  · intro h
    obtain ⟨found, hfound, hsize⟩ := m.recognises.complete cs text payload h.isPrefix h.accepts
    have haccepts := m.recognises.sound cs found hfound
    have hle := h.longest _ _ (List.take_prefix found.size cs) haccepts
    -- both are beginnings of `cs`, and neither is longer than the other
    have htext : text = cs.take found.size := by
      have hprefix : text <+: cs.take found.size := by
        rw [List.prefix_take_iff]
        exact ⟨h.isPrefix, hsize⟩
      exact hprefix.eq_of_length_le hle
    refine ⟨found, hfound, htext, ?_⟩
    exact m.recognises.payload_unique _ _ _ h.accepts (htext ▸ haccepts)
  · rintro ⟨found, hfound, rfl, rfl⟩
    refine ⟨List.take_prefix _ _, m.recognises.sound cs found hfound, ?_⟩
    intro text' payload' hprefix haccepts
    obtain ⟨found', hfound', hsize⟩ := m.recognises.complete cs text' payload' hprefix haccepts
    obtain rfl : found = found' := Option.some.inj (hfound.symm.trans hfound')
    have hle := hprefix.length_le
    rw [List.length_take]
    omega

/-- A pattern does not match where the search for it finds nothing. -/
lemma find_eq_none_iff {m : Matcher} {cs : List Char} :
    m.find cs = none ↔ ∀ text payload, ¬ m.Matches cs text payload := by
  constructor
  · intro h text payload hmatches
    obtain ⟨found, hfound, -⟩ := matches_iff.mp hmatches
    rw [h] at hfound
    cases hfound
  · intro h
    rw [Option.eq_none_iff_forall_ne_some]
    intro found hfound
    exact h _ _ (matches_iff.mpr ⟨found, hfound, rfl, rfl⟩)

end Matcher

end PrintSpec
