import Mathlib.Data.Bool.AllAny
import PrintSpec.Proofs.Encoding
import PrintSpec.Proofs.Yaml.Pieces

/-!
# Quoted texts are read back

A quoted text is read part by part, where a part is a character, an escape, or a run of spaces or
line ends.  `Reads` says that some parts are read, whatever comes after them, and it composes.
-/

namespace PrintSpec.Yaml

open PrintSpec.Text

/-! ## Line ends -/

lemma isBreak_cases {c : Char} (h : isBreak c = true) :
    c = '\n' ∨ c = '\x85' ∨ c = '\u2028' ∨ c = '\u2029' := by
  simpa [isBreak] using h

lemma mem_of_isWhite {c : Char} (h : isWhite c = true) :
    c ∈ ['\x00', ' ', '\t', '\r', '\n', '\x85', '\u2028', '\u2029'] := by
  simpa [isWhite] using h

lemma isWhite_of_isBreak {c : Char} (h : isBreak c = true) : isWhite c = true := by
  rcases isBreak_cases h with rfl | rfl | rfl | rfl <;> rfl

lemma isBreak_of_not_isWhite {c : Char} (h : isWhite c = false) : isBreak c = false := by
  by_contra hbreak
  rw [isWhite_of_isBreak (by simpa using hbreak)] at h
  cases h

lemma ne_of_not_isWhite {c d : Char} (h : isWhite c = false) (hd : isWhite d = true) : c ≠ d := by
  rintro rfl
  rw [hd] at h
  cases h

lemma lineEnd?_of_not_isWhite {c : Char} (h : isWhite c = false) (cs : List Char) :
    lineEnd? (c :: cs) = none := by
  have hreturn : c ≠ '\r' := ne_of_not_isWhite h (by decide)
  have hline : c ≠ '\n' := ne_of_not_isWhite h (by decide)
  have hnext : c ≠ '\x85' := ne_of_not_isWhite h (by decide)
  simp [lineEnd?, hreturn, hline, hnext, isBreak_of_not_isWhite h]

lemma lineEnd?_of_isBreak {c : Char} (h : isBreak c = true) (cs : List Char) :
    lineEnd? (c :: cs) = some (readBreak c, 1) := by
  rcases isBreak_cases h with rfl | rfl | rfl | rfl <;> rfl

/-- Line ends are neither blanks nor carriage returns. -/
lemma ne_blank_of_isBreak {c : Char} (h : isBreak c = true) : c ≠ ' ' ∧ c ≠ '\t' ∧ c ≠ '\r' := by
  rcases isBreak_cases h with rfl | rfl | rfl | rfl <;> decide

lemma atSeparator_of_isWhite {c : Char} (h : isWhite c = true) (cs : List Char) :
    atSeparator (c :: cs) = false := by
  have hdash : c ≠ '-' := (ne_of_not_isWhite (by decide) h).symm
  have hdot : c ≠ '.' := (ne_of_not_isWhite (by decide) h).symm
  simp [atSeparator, Style.startsLikeSeparator, hdash, hdot]

/-- A text that goes on with a character other than white space. -/
lemma exists_of_not_endsWord {cs : List Char} (h : endsWord cs = false) :
    ∃ c cs', cs = c :: cs' ∧ isWhite c = false := by
  cases cs with
  | nil => cases h
  | cons c cs => exact ⟨c, cs, rfl, h⟩

lemma quotedBreaks_spaces (n : Nat) {after : List Char} (h : endsWord after = false) :
    quotedBreaks false (List.replicate n ' ' ++ after) = some ([], n) := by
  induction n with
  | zero =>
    obtain ⟨c, cs, rfl, hc⟩ := exists_of_not_endsWord h
    have hspace : c ≠ ' ' := ne_of_not_isWhite hc (by decide)
    have htab : c ≠ '\t' := ne_of_not_isWhite hc (by decide)
    have hreturn : c ≠ '\r' := ne_of_not_isWhite hc (by decide)
    simp [quotedBreaks, hspace, htab, hreturn, lineEnd?_of_not_isWhite hc]
  | succ n ih =>
    rw [List.replicate_succ, List.cons_append, quotedBreaks]
    simp [ih]

/-- The indentation of the next line is part of a run of line ends. -/
lemma quotedBreaks_indented {bs : List Char} (hbs : ∀ b ∈ bs, isBreak b = true) {indent : Nat}
    (hindent : 0 < indent) {after : List Char} (h : endsWord after = false) :
    quotedBreaks true (bs ++ (List.replicate indent ' ' ++ after)) =
      some (bs.map readBreak, bs.length + indent) := by
  induction bs with
  | nil =>
    obtain ⟨n, rfl⟩ := Nat.exists_eq_succ_of_ne_zero (by omega : indent ≠ 0)
    rw [List.nil_append, List.replicate_succ, List.cons_append, quotedBreaks,
      atSeparator_of_isWhite (by decide)]
    simp [quotedBreaks_spaces n h]
  | cons b bs ih =>
    have hb : isBreak b = true := hbs b List.mem_cons_self
    obtain ⟨hspace, htab, hreturn⟩ := ne_blank_of_isBreak hb
    rw [List.cons_append, quotedBreaks, atSeparator_of_isWhite (isWhite_of_isBreak hb),
      lineEnd?_of_isBreak hb, ih fun b' hb' => hbs b' (List.mem_cons_of_mem b hb')]
    simp [hspace, htab, hreturn, Nat.add_right_comm]

/-! ## Parts -/

/-- The reader takes `text` for `codes` and goes on with `after`. -/
def Reads (double : Bool) (text : List Char) (codes : List Nat) (after : List Char) : Prop :=
  ∃ parts ≤ text.length, ∀ fuel, quotedText double (parts + fuel) (text ++ after) =
    (quotedText double fuel after).map fun (more, n) => (codes ++ more, text.length + n)

lemma Reads.nil (double : Bool) (after : List Char) : Reads double [] [] after := by
  refine ⟨0, le_rfl, fun fuel => ?_⟩
  rw [List.nil_append, Nat.zero_add]
  cases quotedText double fuel after <;> simp [Except.map]

lemma Reads.append {double : Bool} {text text' after : List Char} {codes codes' : List Nat}
    (h : Reads double text codes (text' ++ after)) (h' : Reads double text' codes' after) :
    Reads double (text ++ text') (codes ++ codes') after := by
  obtain ⟨parts, hparts, hread⟩ := h
  obtain ⟨parts', hparts', hread'⟩ := h'
  refine ⟨parts + parts', by rw [List.length_append]; omega, fun fuel => ?_⟩
  rw [List.append_assoc, Nat.add_assoc, hread, hread']
  cases quotedText double fuel after <;> simp [Except.map, Nat.add_assoc]

/-- The character that opens and closes a quoted text. -/
def quoteMark (double : Bool) : Char :=
  if double then '"' else '\''

/-- Whether a quoted text ends here. -/
def closes (double : Bool) (cs : List Char) : Bool :=
  cs.head? == some (quoteMark double) && (double || (cs.drop 1).head? != some (quoteMark double))

lemma quotedText_succ (double : Bool) (fuel : Nat) (cs : List Char) :
    quotedText double (fuel + 1) cs =
      if closes double cs then .ok ([], 1)
      else
        match quotedPart double cs with
        | .error fault => .error fault
        | .ok (meaning, n) =>
          (quotedText double fuel (cs.drop n)).map fun (text, m) => (meaning ++ text, n + m) := by
  rw [quotedText]
  rfl

lemma reads_part {double : Bool} {text after : List Char} {codes : List Nat} (htext : text ≠ [])
    (hopen : closes double (text ++ after) = false)
    (hpart : quotedPart double (text ++ after) = .ok (codes, text.length)) :
    Reads double text codes after := by
  refine ⟨1, List.length_pos_iff.mpr htext, fun fuel => ?_⟩
  rw [Nat.add_comm 1 fuel, quotedText_succ, hopen, hpart]
  simp

/-- A text whose parts are read up to the closing quote is read as a whole. -/
lemma Reads.quotedText {double : Bool} {text rest : List Char} {codes : List Nat}
    (h : Reads double text codes (quoteMark double :: rest))
    (hclose : closes double (quoteMark double :: rest) = true) {fuel : Nat}
    (hfuel : text.length < fuel) :
    quotedText double fuel (text ++ quoteMark double :: rest) = .ok (codes, text.length + 1) := by
  obtain ⟨parts, hparts, hread⟩ := h
  obtain ⟨more, rfl⟩ := Nat.exists_eq_add_of_lt (by omega : parts < fuel)
  rw [Nat.add_assoc, hread, quotedText_succ, hclose]
  simp [Except.map]

/-! ## Spaces and line ends -/

lemma closes_of_isWhite {c : Char} (h : isWhite c = true) (double : Bool) (cs : List Char) :
    closes double (c :: cs) = false := by
  have hmark : c ≠ quoteMark double := by
    cases double <;> exact (ne_of_not_isWhite (by decide) h).symm
  simp [closes, hmark]

lemma reads_spaces (double : Bool) (n : Nat) {after : List Char} (h : endsWord after = false) :
    Reads double (List.replicate n ' ') (List.replicate n ' '.toNat) after := by
  cases n with
  | zero => exact Reads.nil double after
  | succ n =>
    obtain ⟨c, cs, rfl, hc⟩ := exists_of_not_endsWord h
    have hspace : c ≠ ' ' := ne_of_not_isWhite hc (by decide)
    have htab : c ≠ '\t' := ne_of_not_isWhite hc (by decide)
    have htake : (List.replicate (n + 1) ' ' ++ c :: cs).takeWhile (fun c => c == ' ' || c == '\t') =
        List.replicate (n + 1) ' ' := by
      rw [List.takeWhile_append_of_pos (by simp)]
      simp [hspace, htab]
    refine reads_part (by simp) ?_ ?_
    · rw [List.replicate_succ]
      exact closes_of_isWhite (by decide) double _
    · have hspaces : quotedSpaces? (List.replicate (n + 1) ' ' ++ c :: cs) =
          some (List.replicate (n + 1) ' ', n + 1) := by
        simp [quotedSpaces?, htake, lineEnd?_of_not_isWhite hc]
      have hwhite : isWhite ' ' = true := by decide
      rw [List.replicate_succ, List.cons_append] at hspaces ⊢
      simp [quotedPart, hwhite, hspaces, orMalformed, List.replicate_succ]

/-- A run of line ends, with the indentation of the next line. -/
lemma reads_breaks (double : Bool) (b : Char) (bs : List Char) (hb : isBreak b = true)
    (hbs : ∀ b ∈ bs, isBreak b = true) {indent : Nat} (hindent : 0 < indent) {after : List Char}
    (h : endsWord after = false) :
    Reads double (b :: bs ++ List.replicate indent ' ')
      ((foldedBreaks (readBreak b) (bs.map readBreak)).map Char.toNat) after := by
  have hwhite := isWhite_of_isBreak hb
  obtain ⟨hspace, htab, -⟩ := ne_blank_of_isBreak hb
  have hspaces : quotedSpaces? (b :: (bs ++ (List.replicate indent ' ' ++ after))) =
      some (foldedBreaks (readBreak b) (bs.map readBreak), bs.length + indent + 1) := by
    simp [quotedSpaces?, hspace, htab, lineEnd?_of_isBreak hb,
      quotedBreaks_indented hbs hindent h, Nat.add_comm]
  refine reads_part (by simp) (closes_of_isWhite hwhite double _) ?_
  rw [List.cons_append, List.cons_append, List.append_assoc]
  simp [quotedPart, hwhite, orMalformed, hspaces]

/-! ## Single quotes -/

lemma reads_char {c : Char} (hc : isWhite c = false) (after : List Char) :
    Reads false (singleQuotedChar c) [c.toNat] after := by
  by_cases hquote : c = '\''
  · subst hquote
    refine reads_part (by simp [singleQuotedChar]) ?_ ?_
    · simp [closes, quoteMark, singleQuotedChar]
    · simp [quotedPart, hc, singleQuotedChar]
  · have htext : singleQuotedChar c = [c] := by simp [singleQuotedChar, hquote]
    rw [htext]
    refine reads_part (List.cons_ne_nil _ _) ?_ ?_
    · simp [closes, quoteMark, hquote]
    · simp [quotedPart, hc, hquote]

lemma reads_word {w : List Char} (hw : ∀ c ∈ w, isWhite c = false) (after : List Char) :
    Reads false (w.flatMap singleQuotedChar) (w.map Char.toNat) after := by
  induction w with
  | nil => exact Reads.nil false after
  | cons c w ih =>
    exact (reads_char (hw c List.mem_cons_self) _).append
      (ih fun d hd => hw d (List.mem_cons_of_mem c hd))

lemma endsWord_singleQuotedChar {c : Char} (hc : isWhite c = false) (cs : List Char) :
    endsWord (singleQuotedChar c ++ cs) = false := by
  unfold singleQuotedChar
  split_ifs with hquote
  · rfl
  · exact hc

/-- What follows a run other than a word starts with a character of a word, or is the quote. -/
lemma endsWord_foldPieces {ps : List Piece} (h : Alternating ps)
    (hhead : ∀ p ∈ ps.head?, p.isWord = true)
    (hword : ∀ w, .word w ∈ ps → ∀ c ∈ w, isWhite c = false) (indent column : Nat) (inner : Bool)
    (rest : List Char) :
    endsWord (foldPieces indent singleQuotedChar column inner ps ++ '\'' :: rest) = false := by
  match ps, h, hhead, hword with
  | [], _, _, _ => rfl
  | .word w :: ps, h, _, hword =>
    obtain ⟨c, w, rfl⟩ := List.exists_cons_of_ne_nil h.1.1
    have hc := hword _ List.mem_cons_self c List.mem_cons_self
    simp only [foldPieces, List.flatMap_cons, List.append_assoc]
    exact endsWord_singleQuotedChar hc _
  | .spaces n :: ps, _, hhead, _ => cases hhead _ rfl
  | .breaks bs :: ps, _, hhead, _ => cases hhead _ rfl

/-- A run of line ends is written so that it is read back by its meaning. -/
lemma reads_breakText {bs : List Char} (h : (Piece.breaks bs).Pure) {indent : Nat}
    (hindent : 0 < indent) {after : List Char} (hafter : endsWord after = false) :
    Reads false (breakText indent bs) ((Piece.breaks bs).reread.map Char.toNat) after := by
  obtain ⟨hne, hbs⟩ := h
  obtain ⟨b, bs, rfl⟩ := List.exists_cons_of_ne_nil hne
  have hb : isBreak b = true := hbs b List.mem_cons_self
  by_cases hline : b = '\n'
  · have hread := reads_breaks false '\n' (b :: bs) (by decide) hbs hindent hafter
    simpa [breakText, Piece.reread, hline, foldedBreaks, readBreak] using hread
  · have hread := reads_breaks false b bs hb (fun b' hb' => hbs b' (List.mem_cons_of_mem b hb'))
      hindent hafter
    simpa [breakText, Piece.reread, hline] using hread

/-- The runs of a text are read back one after the other. -/
lemma reads_foldPieces {ps : List Piece} (h : Alternating ps)
    (hword : ∀ w, .word w ∈ ps → ∀ c ∈ w, isWhite c = false) {indent : Nat} (hindent : 0 < indent)
    (column : Nat) (inner : Bool) (rest : List Char) :
    Reads false (foldPieces indent singleQuotedChar column inner ps)
      ((ps.flatMap Piece.reread).map Char.toNat) ('\'' :: rest) := by
  induction ps generalizing column inner with
  | nil => exact Reads.nil false _
  | cons p ps ih =>
    obtain ⟨hp, hhead, hps⟩ := h
    have htail : ∀ w, .word w ∈ ps → ∀ c ∈ w, isWhite c = false :=
      fun w hw => hword w (List.mem_cons_of_mem p hw)
    rw [List.flatMap_cons, List.map_append]
    cases p with
    | word w =>
      rw [foldPieces]
      exact (reads_word (hword w List.mem_cons_self) _).append (ih hps htail _ _)
    | breaks bs =>
      rw [foldPieces]
      refine (reads_breakText hp hindent ?_).append (ih hps htail _ _)
      exact endsWord_foldPieces hps hhead htail _ _ _ _
    | spaces n =>
      rw [foldPieces]
      split_ifs with hfold
      · -- a single space is read back from the line end
        obtain ⟨rfl, -⟩ := hfold
        have hread := fun column => reads_breaks false '\n' [] (by decide) (by simp) hindent
          (endsWord_foldPieces hps hhead htail indent column true rest)
        exact (hread _).append (ih hps htail _ _)
      · refine Reads.append ?_ (ih hps htail _ _)
        have hread := fun column => reads_spaces false n
          (endsWord_foldPieces hps hhead htail indent column true rest)
        simpa [Piece.reread, Piece.chars] using hread _

lemma not_isWhite_of_isShowable {c : Char} (h : Style.isShowable c = true) (hspace : c ≠ ' ')
    (hbreak : isBreak c = false) : isWhite c = false := by
  by_contra hwhite
  have hall : ∀ c ∈ ['\x00', ' ', '\t', '\r', '\n', '\x85', '\u2028', '\u2029'],
      Style.isShowable c = true → c = ' ' ∨ isBreak c = true := by
    rw [← List.all_iff_forall_prop]
    decide
  rcases hall c (mem_of_isWhite (by simpa using hwhite)) h with hc | hc
  · exact hspace hc
  · rw [hc] at hbreak
    cases hbreak

/-- How a quoted text is read: its body stands between two quotes, after which no further one may
follow. -/
def ReadsBetweenQuotes (double : Bool) (text : List Char) (codes : List Nat) : Prop :=
  ∃ body, text = quoteMark double :: body ++ [quoteMark double] ∧
    ∀ rest fuel, rest.head? ≠ some (quoteMark double) → body.length < fuel →
      quotedText double fuel (body ++ quoteMark double :: rest) = .ok (codes, body.length + 1)

lemma closes_quoteMark (double : Bool) {rest : List Char}
    (h : rest.head? ≠ some (quoteMark double)) :
    closes double (quoteMark double :: rest) = true := by
  simp [closes, h]

/-- **A text between single quotes is read back, up to its line ends.** -/
lemma reads_singleQuotedText {cs : List Char} (h : Style.allowsSingle cs = true) {indent : Nat}
    (hindent : 0 < indent) (column : Nat) :
    ReadsBetweenQuotes false (singleQuotedText indent column cs)
      ((Style.reread .singleQuoted cs).map Char.toNat) := by
  simp only [Style.allowsSingle, Bool.and_eq_true, List.all_eq_true, Bool.not_eq_true'] at h
  have halternating := alternating_pieces h.2
  have hword : ∀ w, .word w ∈ pieces cs → ∀ c ∈ w, isWhite c = false := by
    intro w hw c hc
    have hpure := (pure_of_alternating halternating _ hw).2 c hc
    have hmem : c ∈ cs := by
      rw [← chars_pieces cs]
      exact List.mem_flatMap.mpr ⟨_, hw, hc⟩
    exact not_isWhite_of_isShowable (h.1 c hmem) hpure.1 hpure.2
  refine ⟨_, rfl, fun rest fuel hrest hfuel => ?_⟩
  exact (reads_foldPieces halternating hword hindent (column + 1) false rest).quotedText
    (closes_quoteMark false hrest) hfuel

/-! ## Double quotes -/

lemma not_isWhite_of_not_isEscaped {c : Char} (h : isEscaped c = false) (hspace : c ≠ ' ') :
    isWhite c = false := by
  by_contra hwhite
  have hall : ∀ c ∈ ['\x00', ' ', '\t', '\r', '\n', '\x85', '\u2028', '\u2029'],
      isEscaped c = false → c = ' ' := by
    rw [← List.all_iff_forall_prop]
    decide
  exact hspace (hall c (mem_of_isWhite (by simpa using hwhite)) h)

lemma reads_bareChar {c : Char} (h : isEscaped c = false) (hspace : c ≠ ' ') (after : List Char) :
    Reads true [c] [c.toNat] after := by
  have hwhite := not_isWhite_of_not_isEscaped h hspace
  have hquote : c ≠ '"' := by
    rintro rfl
    revert h
    decide
  have hslash : c ≠ '\\' := by
    rintro rfl
    revert h
    decide
  refine reads_part (List.cons_ne_nil _ _) ?_ ?_
  · simp [closes, quoteMark, hquote]
  · simp [quotedPart, hwhite, hslash]

/-- What follows a backslash decides how an escape is read. -/
lemma reads_backslash {text after : List Char} {codes : List Nat}
    (h : escapeMeaning (text ++ after) = .ok (codes, text.length)) :
    Reads true ('\\' :: text) codes after := by
  have hwhite : isWhite '\\' = false := by decide
  refine reads_part (List.cons_ne_nil _ _) ?_ ?_
  · simp [closes, quoteMark]
  · simp [quotedPart, hwhite, h, Except.map]

lemma reads_letter {letter c : Char} (h : letterMeaning? letter = some c) (after : List Char) :
    Reads true ['\\', letter] [c.toNat] after := by
  apply reads_backslash
  simp [escapeMeaning, h]

lemma reads_code {letter : Char} {digits : List Char} {n : Nat}
    (hletter : letterMeaning? letter = none) (hlength : codeLength? letter = some digits.length)
    (hdigits : readHex? digits = some n) (hn : n < 0x110000) (after : List Char) :
    Reads true ('\\' :: letter :: digits) [n] after := by
  have hmeaning : codeMeaning digits = .ok n := by
    have hreach : ¬greatestCode < n := by
      unfold greatestCode
      omega
    have hspace : ¬codeSpace ≤ n := by
      unfold codeSpace
      omega
    simp [codeMeaning, hdigits, codePoint, hreach, hspace, Except.mapError]
  apply reads_backslash
  simp [escapeMeaning, hletter, hlength, hmeaning, Except.map]

lemma reads_escapeText (c : Char) (after : List Char) :
    Reads true (escapeText c) [c.toNat] after := by
  unfold escapeText
  split
  · rename_i e he
    have hmeaning : ∀ e ∈ letterEscapes, letterMeaning? e.2 = some e.1 := by decide
    obtain rfl : e.1 = c := by simpa using List.find?_some he
    exact reads_letter (hmeaning e (List.mem_of_find?_eq_some he)) after
  · have hc : c.toNat < 0x110000 := toNat_lt_codeSpace c
    unfold codeEscape
    split_ifs with hbyte hshort
    · exact reads_code (by decide) (by rw [length_hexUpper (by decide) (by omega)]; rfl)
        (readHex?_hexUpper _ _) hc after
    · exact reads_code (by decide) (by rw [length_hexUpper (by decide) (by omega)]; rfl)
        (readHex?_hexUpper _ _) hc after
    · exact reads_code (by decide) (by rw [length_hexUpper (by decide) (by omega)]; rfl)
        (readHex?_hexUpper _ _) hc after

/-- A hidden line end, with the indentation of the next line, stands for nothing. -/
lemma reads_fold {indent : Nat} (hindent : 0 < indent) {after : List Char}
    (h : endsWord after = false) : Reads true ('\\' :: newLine indent) [] after := by
  have hbreaks := @quotedBreaks_indented [] (by simp) indent hindent after h
  have hletter : letterMeaning? '\n' = none := by decide
  have hcode : codeLength? '\n' = none := by decide
  have hline := lineEnd?_of_isBreak (c := '\n') (by decide) (List.replicate indent ' ' ++ after)
  apply reads_backslash
  rw [List.nil_append] at hbreaks
  simp [newLine, escapeMeaning, hletter, hcode, hline, hbreaks, orMalformed, Nat.add_comm]

lemma reads_guardedSpace (after : List Char) : Reads true ['\\', ' '] [' '.toNat] after :=
  reads_letter (by decide) after

/-- The backslash that keeps a space at the start of a line. -/
def spaceGuard (cs : List Char) : List Char :=
  if cs.head? = some ' ' then ['\\'] else []

/-- The characters of a text as they stand between double quotes. -/
def doubleQuotedChars (indent : Nat) (folds : Bool) (column : Nat) (afterEscape inner : Bool)
    (cs : List Char) : List Char :=
  doubleQuotedMarks indent folds column afterEscape inner (cs.map Mark.ofChar)

/-- The mark of a space stands for a space only. -/
lemma ofChar_eq_space_iff {c : Char} : Mark.ofChar c = .bare ' ' ↔ c = ' ' := by
  constructor
  · intro h
    unfold Mark.ofChar at h
    split at h
    · cases h
    · exact Mark.bare.inj h
  · rintro rfl
    decide

lemma spaceGuard_eq (cs : List Char) :
    (if (cs.map Mark.ofChar).head? = some (.bare ' ') then ['\\'] else []) = spaceGuard cs := by
  unfold spaceGuard
  cases cs with
  | nil => rfl
  | cons c cs => simp [ofChar_eq_space_iff]

/-- An escaped character is written as its escape; the line may be folded after it. -/
lemma doubleQuotedChars_of_isEscaped {c : Char} (h : isEscaped c = true) (cs : List Char)
    (indent column : Nat) (folds afterEscape inner : Bool) :
    (∃ column', doubleQuotedChars indent folds column afterEscape inner (c :: cs) =
      escapeText c ++ doubleQuotedChars indent folds column' true true cs) ∨
    doubleQuotedChars indent folds column afterEscape inner (c :: cs) =
      escapeText c ++ ('\\' :: newLine indent ++ (spaceGuard cs ++
        doubleQuotedChars indent folds (indent + (spaceGuard cs).length) true true cs)) := by
  rw [doubleQuotedChars, List.map_cons, Mark.ofChar, if_pos h, doubleQuotedMarks]
  split
  · right
    simp only [spaceGuard_eq, doubleQuotedChars, List.append_assoc, List.cons_append]
  · left
    exact ⟨_, rfl⟩

/-- Any other character is written as it is; the line may be folded before it. -/
lemma doubleQuotedChars_of_not_isEscaped {c : Char} (h : isEscaped c = false) (cs : List Char)
    (indent column : Nat) (folds afterEscape inner : Bool) :
    (∃ column', doubleQuotedChars indent folds column afterEscape inner (c :: cs) =
      c :: doubleQuotedChars indent folds column' false true cs) ∨
    lineWidth < column ∧
      ∃ column', doubleQuotedChars indent folds column afterEscape inner (c :: cs) =
        '\\' :: newLine indent ++ (spaceGuard [c] ++
          c :: doubleQuotedChars indent folds column' false true cs) := by
  rw [doubleQuotedChars, List.map_cons, Mark.ofChar, h, if_neg Bool.false_ne_true,
    doubleQuotedMarks]
  split
  · rename_i hfold
    right
    simp only [Bool.and_eq_true, decide_eq_true_eq] at hfold
    exact ⟨hfold.2, _, by simp [spaceGuard]; rfl⟩
  · left
    exact ⟨_, rfl⟩

lemma endsWord_escapeText (c : Char) (after : List Char) :
    endsWord (escapeText c ++ after) = false := by
  unfold escapeText codeEscape
  split
  · rfl
  · split_ifs <;> rfl

/-- Between double quotes only a space is written as white space. -/
lemma endsWord_doubleQuotedChars {cs : List Char} (h : cs.head? ≠ some ' ') (indent column : Nat)
    (folds afterEscape inner : Bool) (rest : List Char) :
    endsWord (doubleQuotedChars indent folds column afterEscape inner cs ++ '"' :: rest) = false := by
  cases cs with
  | nil => rfl
  | cons c cs =>
    have hspace : c ≠ ' ' := by simpa using h
    cases hc : isEscaped c with
    | true =>
      rcases doubleQuotedChars_of_isEscaped hc cs indent column folds afterEscape inner with
        ⟨column', htext⟩ | htext
      · rw [htext, List.append_assoc]
        exact endsWord_escapeText c _
      · rw [htext, List.append_assoc]
        exact endsWord_escapeText c _
    | false =>
      rcases doubleQuotedChars_of_not_isEscaped hc cs indent column folds afterEscape inner with
        ⟨column', htext⟩ | ⟨-, column', htext⟩
      · rw [htext]
        exact not_isWhite_of_not_isEscaped hc hspace
      · rw [htext]
        rfl

lemma length_spaceGuard_le (cs : List Char) : (spaceGuard cs).length ≤ 1 := by
  unfold spaceGuard
  split_ifs <;> simp

lemma endsWord_spaceGuard (cs : List Char) (indent column : Nat) (folds : Bool)
    (rest : List Char) :
    endsWord (spaceGuard cs ++ doubleQuotedChars indent folds column true true cs ++ '"' :: rest) =
      false := by
  by_cases h : cs.head? = some ' '
  · simp [spaceGuard, h, endsWord]
    rfl
  · have hguard : spaceGuard cs = [] := by simp [spaceGuard, h]
    rw [hguard]
    exact endsWord_doubleQuotedChars h indent column folds true true rest

/-- The characters of a text are read back after some spaces, which are read in one run with those
that follow. -/
def ReadsAfterSpaces (indent : Nat) (rest cs : List Char) : Prop :=
  ∀ k column afterEscape inner, Reads true
    (List.replicate k ' ' ++ doubleQuotedChars indent true column afterEscape inner cs)
    (List.replicate k ' '.toNat ++ cs.map Char.toNat) ('"' :: rest)

/-- The characters of a text are read back at the start of a line, where a space needs a guard. -/
def ReadsAtLineStart (indent : Nat) (rest cs : List Char) : Prop :=
  ∀ column ≤ lineWidth, Reads true
    (spaceGuard cs ++ doubleQuotedChars indent true column true true cs)
    (cs.map Char.toNat) ('"' :: rest)

section

variable {indent : Nat} {rest cs : List Char} {c : Char}

lemma ReadsAfterSpaces.reads (h : ReadsAfterSpaces indent rest cs) (column : Nat)
    (afterEscape inner : Bool) :
    Reads true (doubleQuotedChars indent true column afterEscape inner cs) (cs.map Char.toNat)
      ('"' :: rest) := by
  simpa using h 0 column afterEscape inner

lemma readsAfterSpaces_escaped (hindent : 0 < indent) (hwidth : indent < lineWidth)
    (hc : isEscaped c = true) (h : ReadsAfterSpaces indent rest cs)
    (hstart : ReadsAtLineStart indent rest cs) : ReadsAfterSpaces indent rest (c :: cs) := by
  intro k column afterEscape inner
  have hends := endsWord_escapeText c
  rcases doubleQuotedChars_of_isEscaped hc cs indent column true afterEscape inner with
    ⟨column', htext⟩ | htext
  · rw [htext]
    refine (reads_spaces true k ?_).append ((reads_escapeText c _).append (h.reads _ _ _))
    rw [List.append_assoc]
    exact hends _
  · have hguard := length_spaceGuard_le cs
    rw [htext]
    refine (reads_spaces true k ?_).append ((reads_escapeText c _).append ?_)
    · rw [List.append_assoc]
      exact hends _
    · exact (reads_fold hindent (endsWord_spaceGuard _ _ _ _ _)).append (hstart _ (by omega))

lemma readsAfterSpaces_bare (hindent : 0 < indent) (hc : isEscaped c = false)
    (h : ReadsAfterSpaces indent rest cs) : ReadsAfterSpaces indent rest (c :: cs) := by
  intro k column afterEscape inner
  rcases doubleQuotedChars_of_not_isEscaped hc cs indent column true afterEscape inner with
    ⟨column', htext⟩ | ⟨-, column', htext⟩
  · rw [htext]
    by_cases hspace : c = ' '
    · subst hspace
      simpa [List.replicate_succ', List.append_assoc] using h (k + 1) column' false true
    · refine (reads_spaces true k ?_).append ((reads_bareChar hc hspace _).append (h.reads _ _ _))
      exact not_isWhite_of_not_isEscaped hc hspace
  · rw [htext]
    refine (reads_spaces true k rfl).append ?_
    by_cases hspace : c = ' '
    · subst hspace
      exact (reads_fold hindent rfl).append ((reads_guardedSpace _).append (h.reads _ _ _))
    · have hguard : spaceGuard [c] = [] := by simp [spaceGuard, hspace]
      rw [hguard, List.nil_append]
      refine (reads_fold hindent ?_).append ((reads_bareChar hc hspace _).append (h.reads _ _ _))
      exact not_isWhite_of_not_isEscaped hc hspace

lemma readsAtLineStart_cons (h : ReadsAfterSpaces indent rest cs)
    (hcons : ReadsAfterSpaces indent rest (c :: cs)) : ReadsAtLineStart indent rest (c :: cs) := by
  intro column hcolumn
  by_cases hspace : c = ' '
  · subst hspace
    have hc : isEscaped ' ' = false := by decide
    rcases doubleQuotedChars_of_not_isEscaped hc cs indent column true true true with
      ⟨column', htext⟩ | ⟨hwide, -⟩
    · rw [htext]
      exact (reads_guardedSpace _).append (h.reads _ _ _)
    · omega
  · have hguard : spaceGuard (c :: cs) = [] := by simp [spaceGuard, hspace]
    rw [hguard]
    exact hcons.reads column true true

end

lemma reads_doubleQuotedChars {indent : Nat} (hindent : 0 < indent) (hwidth : indent < lineWidth)
    (rest cs : List Char) : ReadsAfterSpaces indent rest cs ∧ ReadsAtLineStart indent rest cs := by
  induction cs with
  | nil =>
    refine ⟨fun k column afterEscape inner => ?_, fun column _ => Reads.nil true _⟩
    simpa [doubleQuotedChars, doubleQuotedMarks] using reads_spaces true k rfl
  | cons c cs ih =>
    obtain ⟨hafter, hstart⟩ := ih
    have hcons : ReadsAfterSpaces indent rest (c :: cs) := by
      cases hc : isEscaped c with
      | true => exact readsAfterSpaces_escaped hindent hwidth hc hafter hstart
      | false => exact readsAfterSpaces_bare hindent hc hafter
    exact ⟨hcons, readsAtLineStart_cons hafter hcons⟩

/-- **A text between double quotes is read back.** -/
lemma reads_doubleQuotedText {indent : Nat} (hindent : 0 < indent) (hwidth : indent < lineWidth)
    (column : Nat) (cs : List Char) :
    ReadsBetweenQuotes true (doubleQuotedText indent true column (cs.map Mark.ofChar))
      (cs.map Char.toNat) := by
  refine ⟨_, rfl, fun rest fuel hrest hfuel => ?_⟩
  have hread := (reads_doubleQuotedChars hindent hwidth rest cs).1.reads (column + 1) false false
  exact hread.quotedText (closes_quoteMark true hrest) hfuel

end PrintSpec.Yaml
