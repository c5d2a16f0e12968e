import Mathlib.Data.List.Basic
import PrintSpec.Proofs.Awk.Lexeme

/-!
# Quoting is undone by reading

Any reader that follows the rules of awk reads the literal of a text as that text, and goes on right
after it.  So no text can end its literal early and have the rest of it taken for a part of the
program, and two texts never share a literal.

A literal can also be made by replacing characters throughout the text, one sort after the other.
Each replacement then goes over what the earlier ones have put in, so their order matters:
`replaceInTurn_eq_flatMap` says that they act like one replacement in every place as long as none of
them goes for a character that an earlier one puts in.  The backslash has to be the first.
-/

namespace PrintSpec.Awk

/-! ## Replacing characters -/

/-- Puts a text in the place of every occurrence of a character: the text is cut at the character,
and the parts are joined again. -/
def replaceAll (old : Char) (new cs : List Char) : List Char :=
  new.intercalate (cs.splitOn old)

/-- Replaces one character after the other, each throughout the text that the earlier ones left. -/
def replaceInTurn (replacements : List (Char × List Char)) (cs : List Char) : List Char :=
  replacements.foldl (fun cs r => replaceAll r.1 r.2 cs) cs

/-- What comes to stand in the place of a single character. -/
def replacementOf : List (Char × List Char) → Char → List Char
  | [], c => [c]
  | (old, new) :: later, c => if c = old then new else replacementOf later c

lemma intercalate_modifyHead_cons {sep : List Char} (c : Char) {parts : List (List Char)}
    (h : parts ≠ []) :
    sep.intercalate (parts.modifyHead (c :: ·)) = c :: sep.intercalate parts := by
  obtain ⟨part, parts, rfl⟩ := List.exists_cons_of_ne_nil h
  cases parts with
  | nil => simp
  | cons part' parts => simp [List.intercalate_cons_cons]

/-- Replacing a character throughout a text goes character by character. -/
lemma replaceAll_eq_flatMap (old : Char) (new cs : List Char) :
    replaceAll old new cs = cs.flatMap fun c => if c = old then new else [c] := by
  induction cs with
  | nil => simp [replaceAll]
  | cons c cs ih =>
    have hne : cs.splitOn old ≠ [] := List.splitOn_ne_nil old cs
    rw [List.flatMap_cons, ← ih, replaceAll, List.splitOn_cons_eq_if_modifyHead]
    by_cases hc : c = old
    · obtain ⟨part, parts, hparts⟩ := List.exists_cons_of_ne_nil hne
      simp [replaceAll, hc, hparts, List.intercalate_cons_cons]
    · rw [if_neg (by simpa using hc), if_neg hc, intercalate_modifyHead_cons c hne]
      rfl

lemma replacementOf_of_ne {replacements : List (Char × List Char)} {c : Char}
    (h : ∀ r ∈ replacements, c ≠ r.1) : replacementOf replacements c = [c] := by
  induction replacements with
  | nil => rfl
  | cons r later ih =>
    rw [List.forall_mem_cons] at h
    rw [replacementOf, if_neg h.1, ih h.2]

/-- Replacements in turn act like one replacement in every place, if none of them goes for a
character that an earlier one puts in. -/
lemma replaceInTurn_eq_flatMap {replacements : List (Char × List Char)}
    (h : replacements.Pairwise fun earlier later => later.1 ∉ earlier.2) (cs : List Char) :
    replaceInTurn replacements cs = cs.flatMap (replacementOf replacements) := by
  induction h generalizing cs with
  | nil => exact (List.flatMap_singleton' cs).symm
  | @cons r later hr hlater ih =>
    -- what the first replacement puts in is left as it is by the later ones
    have hkept : r.2.flatMap (replacementOf later) = r.2 := by
      conv_rhs => rw [← List.flatMap_singleton' r.2]
      apply List.flatMap_congr
      intro c hc
      apply replacementOf_of_ne
      rintro r' hr' rfl
      exact hr r' hr' hc
    have hturn : replaceInTurn (r :: later) cs = replaceInTurn later (replaceAll r.1 r.2 cs) := rfl
    rw [hturn, ih, replaceAll_eq_flatMap, List.flatMap_assoc]
    apply List.flatMap_congr
    intro c _
    by_cases hc : c = r.1
    · rw [if_pos hc, hkept, replacementOf, if_pos hc]
    · rw [if_neg hc, List.flatMap_singleton, replacementOf, if_neg hc]

/-! ## Literals -/

/-- What is written for each character that has to be escaped, in the order of the replacements. -/
def escapes : List (Char × List Char) :=
  [('\\', ['\\', '\\']), ('"', ['\\', '"']), ('\n', ['\\', 'n']), ('\r', ['\\', 'r'])]

/-- The literal of a text is the text with the escapes replaced in turn, between quotes. -/
lemma quote_eq_replaceInTurn (t : String) :
    quote t = String.ofList ('"' :: replaceInTurn escapes t.toList ++ ['"']) := by
  have horder : escapes.Pairwise fun earlier later => later.1 ∉ earlier.2 := by decide
  have hescape : replacementOf escapes = escapeChar := rfl
  rw [replaceInTurn_eq_flatMap horder, hescape, quote]

/-- The characters that may not stand in a literal as they are. -/
def lineEnds : List Char := ['\n', '\r']

lemma not_mem_escapeChar {x : Char} (hx : x ∈ lineEnds) (c : Char) : x ∉ escapeChar c := by
  have hx' : x = '\n' ∨ x = '\r' := by simpa [lineEnds] using hx
  unfold escapeChar
  split_ifs with hb hq hn hr
  case neg =>
    rw [List.mem_singleton]
    rintro rfl
    exact hx'.elim hn hr
  all_goals rcases hx' with rfl | rfl <;> decide

/-- A literal stays in its line. -/
lemma not_mem_quote {x : Char} (hx : x ∈ lineEnds) (t : String) : x ∉ (quote t).toList := by
  have hquote : x ≠ '"' := by
    rintro rfl
    exact absurd hx (by decide)
  have hcontent : x ∉ t.toList.flatMap escapeChar := by
    rw [List.mem_flatMap]
    rintro ⟨c, -, hc⟩
    exact not_mem_escapeChar hx c hc
  simpa [quote, hquote] using hcontent

lemma quote_injective : Function.Injective quote := by
  intro t u h
  have ht := Lexeme.literalReader.literal?_quote t []
  rw [h, Lexeme.literalReader.literal?_quote u []] at ht
  simpa using ht.symm

/-- **Quoting is undone by reading a literal, in any context.**  A reader that follows the rules of
awk finds the text and what follows its literal, which holds no line end; no other text has the same
literal; and the escapes may be replaced one after the other throughout the text. -/
theorem quote_undone_by_reading (t : String) :
    (∀ (reader : LiteralReader) (rest : List Char),
      reader.literal? ((quote t).toList ++ rest) = some (t, rest)) ∧
    ('\n' ∉ (quote t).toList ∧ '\r' ∉ (quote t).toList) ∧
    (∀ u, quote u = quote t → u = t) ∧
    quote t = String.ofList ('"' :: replaceInTurn escapes t.toList ++ ['"']) := by
  refine ⟨fun reader rest => reader.literal?_quote t rest, ⟨?_, ?_⟩, ?_, quote_eq_replaceInTurn t⟩
  · exact not_mem_quote (by decide) t
  · exact not_mem_quote (by decide) t
  · intro u h
    exact quote_injective h

end PrintSpec.Awk
