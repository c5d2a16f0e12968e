import PrintSpec.Document.Yaml.Writer
import PrintSpec.Proofs.Dump.Values
import PrintSpec.Proofs.Yaml.Numerals

/-!
# Written documents are legal

A reader refuses a text with characters that may not stand in a document.  No such character is ever
written: texts that hold one are put between double quotes, where it is escaped.
-/

namespace PrintSpec.Yaml

open PrintSpec.Text

/-- A text whose characters may stand in a document. -/
def Legal (cs : List Char) : Prop :=
  ∀ c ∈ cs, isLegal c = true

@[simp] lemma legal_nil : Legal [] := by simp [Legal]

@[simp] lemma legal_cons {c : Char} {cs : List Char} :
    Legal (c :: cs) ↔ isLegal c = true ∧ Legal cs := by
  simp [Legal]

@[simp] lemma legal_append {as bs : List Char} : Legal (as ++ bs) ↔ Legal as ∧ Legal bs := by
  simp [Legal, or_imp, forall_and]

@[simp] lemma legal_spaces (n : Nat) : Legal (List.replicate n ' ') := by
  intro c hc
  rw [List.eq_of_mem_replicate hc]
  decide

lemma legal_flatMap {f : Char → List Char} {cs : List Char} (h : ∀ c ∈ cs, Legal (f c)) :
    Legal (cs.flatMap f) := by
  intro c hc
  obtain ⟨d, hd, hc⟩ := List.mem_flatMap.mp hc
  exact h d hd c hc

lemma isLegal_of_isShowable {c : Char} (h : Style.isShowable c = true) : isLegal c = true := by
  by_cases hline : c = '\n'
  · subst hline
    decide
  · simp only [Style.isShowable, isLegal, Bool.or_eq_true, Bool.and_eq_true, decide_eq_true_eq,
      beq_iff_eq, bne_iff_ne, hline, false_or] at h ⊢
    omega

lemma isLegal_of_not_isEscaped {c : Char} (h : isEscaped c = false) : isLegal c = true := by
  simp only [isEscaped, isLegal, Bool.or_eq_true, Bool.and_eq_true, decide_eq_true_eq,
    beq_iff_eq, Bool.or_eq_false_iff, Bool.not_eq_false'] at h ⊢
  omega

/-! ## Texts -/

lemma legal_newLine (indent : Nat) : Legal (newLine indent) := by
  simp [newLine]
  decide

lemma legal_foldPieces {escape : Char → List Char} {ps : List Piece}
    (hescape : ∀ c, isLegal c = true → Legal (escape c)) (h : Legal (ps.flatMap Piece.chars))
    (indent column : Nat) (inner : Bool) : Legal (foldPieces indent escape column inner ps) := by
  induction ps generalizing column inner with
  | nil => exact legal_nil
  | cons p ps ih =>
    rw [List.flatMap_cons, legal_append] at h
    have hrest := ih h.2
    cases p with
    | word w =>
      rw [foldPieces, legal_append]
      exact ⟨legal_flatMap fun c hc => hescape c (h.1 c hc), hrest _ _⟩
    | breaks bs =>
      have hbs : Legal bs := h.1
      have hline : isLegal '\n' = true := by decide
      rw [foldPieces, breakText]
      simp only [legal_append, legal_spaces, hbs, hrest, and_true]
      split_ifs <;> simp [hline]
    | spaces n =>
      rw [foldPieces]
      split_ifs
      · rw [legal_append]
        exact ⟨legal_newLine indent, hrest _ _⟩
      · rw [legal_append]
        exact ⟨legal_spaces n, hrest _ _⟩

lemma legal_of_showable {cs : List Char} (h : cs.all Style.isShowable = true) : Legal cs := by
  intro c hc
  exact isLegal_of_isShowable (List.all_eq_true.mp h c hc)

lemma legal_singleQuotedChar {c : Char} (h : isLegal c = true) : Legal (singleQuotedChar c) := by
  unfold singleQuotedChar
  split_ifs
  · simp
    decide
  · simpa using h

lemma legal_hexUpper (least n : Nat) : Legal (hexUpper least n) := by
  have hdigits : ∀ d < 16, isLegal (Nat.digitChar d).toUpper = true := by decide
  intro c hc
  obtain ⟨d, hd, rfl⟩ := List.mem_map.mp hc
  rcases List.mem_append.mp hd with hd | hd
  · rw [List.eq_of_mem_replicate hd]
    decide
  · obtain ⟨d, hlt, rfl⟩ := exists_digitChar_of_mem_toDigits hd
    exact hdigits d hlt

lemma legal_codeEscape (n : Nat) : Legal (codeEscape n) := by
  have hmarks : isLegal '\\' = true ∧ isLegal 'x' = true ∧ isLegal 'u' = true ∧
      isLegal 'U' = true := by decide
  unfold codeEscape
  split_ifs <;> simp [hmarks, legal_hexUpper]

lemma legal_escapeText (c : Char) : Legal (escapeText c) := by
  have hletters : ∀ e ∈ letterEscapes, Legal ['\\', e.2] := by
    simp only [legal_cons, legal_nil, and_true]
    decide
  unfold escapeText
  split
  · rename_i e he
    exact hletters e (List.mem_of_find?_eq_some he)
  · exact legal_codeEscape c.toNat

/-- A mark that is written with characters that a document may hold. -/
def Mark.Legal : Mark → Prop
  | .bare c => isLegal c = true
  | .escape text => Yaml.Legal text

lemma legal_ofChar (c : Char) : (Mark.ofChar c).Legal := by
  unfold Mark.ofChar
  split
  · exact legal_escapeText c
  · rename_i hc
    exact isLegal_of_not_isEscaped (Bool.eq_false_iff.mpr hc)

lemma legal_ofCode (n : Nat) : (Mark.ofCode n).Legal := by
  unfold Mark.ofCode
  split
  · exact legal_ofChar _
  · exact legal_codeEscape n

lemma legal_doubleQuotedMarks {marks : List Mark} (h : ∀ m ∈ marks, m.Legal) (indent : Nat)
    (folds : Bool) (column : Nat) (afterEscape inner : Bool) :
    Legal (doubleQuotedMarks indent folds column afterEscape inner marks) := by
  have hslash : isLegal '\\' = true := by decide
  have hguard : ∀ p : Prop, [Decidable p] → Legal (if p then ['\\'] else []) := by
    intro p _
    split
    · simpa using hslash
    · exact legal_nil
  induction marks generalizing column afterEscape inner with
  | nil => exact legal_nil
  | cons mark marks ih =>
    rw [List.forall_mem_cons] at h
    cases mark with
    | escape text =>
      have htext : Legal text := h.1
      rw [doubleQuotedMarks]
      split
      · simp [htext, legal_newLine, hguard, hslash, ih h.2]
      · simp [htext, ih h.2]
    | bare c =>
      have hc : isLegal c = true := h.1
      rw [doubleQuotedMarks]
      split
      · simp [legal_newLine, hguard, hslash, hc, ih h.2]
      · simp [hc, ih h.2]

lemma legal_doubleQuotedText {marks : List Mark} (h : ∀ m ∈ marks, m.Legal) (indent : Nat)
    (folds : Bool) (column : Nat) : Legal (doubleQuotedText indent folds column marks) := by
  have hquote : isLegal '"' = true := by decide
  simp [doubleQuotedText, legal_doubleQuotedMarks h, hquote]

lemma legal_doubleQuoted (indent : Nat) (folds : Bool) (column : Nat) (cs : List Char) :
    Legal (doubleQuotedText indent folds column (cs.map Mark.ofChar)) := by
  refine legal_doubleQuotedText (fun m hm => ?_) indent folds column
  obtain ⟨c, -, rfl⟩ := List.mem_map.mp hm
  exact legal_ofChar c

/-! ## Documents -/

lemma legal_of_ofText {text : String} (h : Style.ofText text ≠ .doubleQuoted) :
    Legal text.toList := by
  cases hstyle : Style.ofText text with
  | plain =>
    obtain ⟨-, hallows⟩ := ofText_eq_plain_iff.mp hstyle
    simp only [Style.allowsPlain, Bool.and_eq_true] at hallows
    exact legal_of_showable hallows.1.1.1
  | singleQuoted =>
    have hsingle := allowsSingle_of_ofText hstyle
    simp only [Style.allowsSingle, Bool.and_eq_true] at hsingle
    exact legal_of_showable hsingle.1
  | doubleQuoted => exact absurd hstyle h

lemma legal_text (text : String) (indent column : Nat) :
    Legal (textIn (Style.ofText text) indent column text.toList) := by
  have hquote : isLegal '\'' = true := by decide
  cases hstyle : Style.ofText text with
  | plain =>
    refine legal_foldPieces (fun c hc => by simpa using hc) ?_ indent column false
    rw [chars_pieces]
    exact legal_of_ofText (by simp [hstyle])
  | singleQuoted =>
    simp only [textIn, singleQuotedText, legal_cons, legal_append, hquote, legal_nil, true_and,
      and_true, List.cons_append]
    refine legal_foldPieces (fun c hc => legal_singleQuotedChar hc) ?_ indent _ false
    rw [chars_pieces]
    exact legal_of_ofText (by simp [hstyle])
  | doubleQuoted => exact legal_doubleQuoted _ _ _ _

lemma legal_of_isDigit {ds : List Char} (h : ∀ d ∈ ds, d.isDigit) : Legal ds :=
  fun d hd => isLegal_of_isShowable (plain_of_isDigit (h d hd)).1

lemma legal_scalarText {s : Scalar} (h : s.Kept) (indent column : Nat) :
    Legal (scalarText indent column s) := by
  have hwords : Legal "null".toList ∧ Legal "true".toList ∧ Legal "false".toList := by
    simp only [String.reduceToList, legal_cons, legal_nil, and_true]
    decide
  cases s with
  | null => exact hwords.1
  | bool b =>
    cases b
    · exact hwords.2.2
    · exact hwords.2.1
  | int n =>
    obtain ⟨n, -, rfl⟩ := h
    rw [scalarText, toList_toString_natCast]
    exact legal_of_isDigit fun d hd => Nat.isDigit_of_mem_toDigits (by decide) (by decide) hd
  | str text => exact legal_text text indent column
  | double d => cases h
  | torn codes =>
    refine legal_doubleQuotedText (fun m hm => ?_) indent true column
    obtain ⟨n, -, rfl⟩ := List.mem_map.mp hm
    exact legal_ofCode n

lemma legal_keyText (text : String) : Legal (keyText (.str text)) := by
  have hquote : isLegal '\'' = true := by decide
  unfold keyText
  dsimp only
  split
  · rename_i hstyle
    refine legal_of_ofText fun hdouble => ?_
    simp [Style.ofKey, hdouble] at hstyle
  · rename_i hstyle
    have hlegal : Legal text.toList := by
      refine legal_of_ofText fun hdouble => ?_
      simp [Style.ofKey, hdouble] at hstyle
    simp [hquote, legal_flatMap fun c hc => legal_singleQuotedChar (hlegal c hc)]
  · exact legal_doubleQuoted _ _ _ _

mutual

lemma legal_writeValue : ∀ {v : Value}, v.Kept → ∀ (indent column : Nat) (inList : Bool),
    Legal (writeValue indent column inList v)
  | .scalar s, h, indent, column, _ => by
    have hmarks : isLegal ' ' = true ∧ isLegal '\n' = true := by decide
    simp [writeValue, hmarks, legal_scalarText h]
  | .list [], _, _, _, _ => by
    simp only [writeValue, String.reduceToList, legal_cons, legal_nil, and_true]
    decide
  | .map [], _, _, _, _ => by
    simp only [writeValue, String.reduceToList, legal_cons, legal_nil, and_true]
    decide
  | .list (v :: vs), h, indent, column, inList => by
    have hmarks : isLegal ' ' = true ∧ isLegal '\n' = true := by decide
    cases inList <;> simp [writeValue, hmarks, legal_writeItems h]
  | .map (e :: es), h, indent, column, inList => by
    have hmarks : isLegal ' ' = true ∧ isLegal '\n' = true := by decide
    cases inList <;> simp [writeValue, hmarks, legal_writeEntries h.2]

lemma legal_writeItems : ∀ {vs : List Value}, Value.AllKept vs → ∀ (indent : Nat) (inline : Bool),
    Legal (writeItems indent inline vs)
  | [], _, _, _ => legal_nil
  | v :: vs, h, indent, inline => by
    have hdash : isLegal '-' = true := by decide
    cases inline <;> simp [writeItems, hdash, legal_writeValue h.1, legal_writeItems h.2]

lemma legal_writeEntries : ∀ {es : List (Scalar × Value)}, Value.EntriesKept es →
    ∀ (indent : Nat) (inline : Bool), Legal (writeEntries indent inline es)
  | [], _, _, _ => legal_nil
  | (k, v) :: es, ⟨⟨text, hk⟩, hv, hes⟩, indent, inline => by
    have hcolon : isLegal ':' = true := by decide
    obtain rfl : k = .str text := hk
    cases inline <;>
      simp [writeEntries, hcolon, legal_keyText, legal_writeValue hv, legal_writeEntries hes]

end

end PrintSpec.Yaml
