import PrintSpec.Document.Yaml.Token
import PrintSpec.Proofs.Yaml.Quoted

/-!
# Plain texts are read back

A plain text is read run by run up to the start of a line that is not indented deeper than the block
around it.  The place at which the reader stops is known up to its line number and its distance from
the start of the text.
-/

namespace PrintSpec.Yaml

/-! ## Places -/

namespace Cursor

lemma skip_add (m n : Nat) (c : Cursor) : c.skip (m + n) = (c.skip m).skip n := by
  induction m generalizing c with
  | zero => rw [Nat.zero_add]; rfl
  | succ m ih => rw [Nat.succ_add]; exact ih c.next

lemma rest_next (c : Cursor) : c.next.rest = c.rest.drop 1 := by
  unfold next
  split
  · rename_i h
    simp [h]
  · rename_i h
    split_ifs <;> simp [h]

lemma rest_skip (n : Nat) (c : Cursor) : (c.skip n).rest = c.rest.drop n := by
  induction n generalizing c with
  | zero => rfl
  | succ n ih => rw [skip, ih, rest_next, List.drop_drop, Nat.add_comm]

/-- Only what follows matters of a place further on. -/
lemma exists_skip_eq {n : Nat} {c : Cursor} {rest : List Char} (h : c.rest.drop n = rest) :
    ∃ index line column, c.skip n = ⟨rest, index, line, column⟩ := by
  refine ⟨(c.skip n).index, (c.skip n).line, (c.skip n).column, ?_⟩
  rw [← h, ← rest_skip]

/-- A character that moves the place by one column. -/
def Inline (c : Char) : Prop :=
  isLineEnd c = false ∧ c ≠ '\ufeff'

lemma skip_inline {xs : List Char} (h : ∀ x ∈ xs, Inline x) (ys : List Char)
    (index line column : Nat) :
    skip xs.length ⟨xs ++ ys, index, line, column⟩ =
      ⟨ys, index + xs.length, line, column + xs.length⟩ := by
  induction xs generalizing index column with
  | nil => rfl
  | cons x xs ih =>
    obtain ⟨hend, hmark⟩ := h x List.mem_cons_self
    simp only [isLineEnd, Bool.or_eq_false_iff] at hend
    have hnext : next ⟨x :: (xs ++ ys), index, line, column⟩ =
        ⟨xs ++ ys, index + 1, line, column + 1⟩ := by
      simp [next, hend, hmark]
    rw [List.length_cons, skip, List.cons_append, hnext,
      ih fun y hy => h y (List.mem_cons_of_mem x hy)]
    simp only [mk.injEq, true_and]
    omega

lemma inline_space : Inline ' ' := ⟨by decide, by decide⟩

lemma skip_spaces (n : Nat) (ys : List Char) (index line column : Nat) :
    skip n ⟨List.replicate n ' ' ++ ys, index, line, column⟩ = ⟨ys, index + n, line, column + n⟩ := by
  have hinline : ∀ x ∈ List.replicate n ' ', Inline x := by
    intro x hx
    rw [List.eq_of_mem_replicate hx]
    exact inline_space
  simpa using skip_inline hinline ys index line column

/-- A line end with the indentation of the next line. -/
lemma skip_newLine (m : Nat) (ys : List Char) (index line column : Nat) :
    skip (1 + m) ⟨'\n' :: (List.replicate m ' ' ++ ys), index, line, column⟩ =
      ⟨ys, index + 1 + m, line + 1, m⟩ := by
  have hnext : skip 1 ⟨'\n' :: (List.replicate m ' ' ++ ys), index, line, column⟩ =
      ⟨List.replicate m ' ' ++ ys, index + 1, line + 1, 0⟩ := by
    simp [skip, next, isBreak]
  rw [skip_add, hnext, skip_spaces, Nat.zero_add]

end Cursor

/-- A text that is at its end or starts with a token. -/
def StartsToken (tail : List Char) : Prop :=
  ∀ c ∈ tail.head?, isWhite c = false ∧ c ≠ '#'

/-- A text with which a line goes on after some spaces. -/
structure StartsLine (indent : Nat) (tail : List Char) : Prop where
  starts : StartsToken tail
  noSeparator : indent = 0 → atSeparator tail = false

/-! ## Gaps -/

lemma plainBreaks_spaces (n : Nat) {tail : List Char} (h : StartsToken tail) :
    plainBreaks false (List.replicate n ' ' ++ tail) = (some [], n) := by
  induction n with
  | zero =>
    cases tail with
    | nil => rfl
    | cons c cs =>
      obtain ⟨hc, -⟩ := h c rfl
      have hspace : c ≠ ' ' := ne_of_not_isWhite hc (by decide)
      have hreturn : c ≠ '\r' := ne_of_not_isWhite hc (by decide)
      simp [plainBreaks, hspace, hreturn, lineEnd?_of_not_isWhite hc]
  | succ n ih =>
    rw [List.replicate_succ, List.cons_append, plainBreaks]
    simp [ih]

lemma plainBreaks_startsLine {m : Nat} {tail : List Char} (h : StartsLine m tail) :
    plainBreaks true (List.replicate m ' ' ++ tail) = (some [], m) := by
  cases m with
  | zero =>
    cases tail with
    | nil => rfl
    | cons c cs =>
      have hread := plainBreaks_spaces 0 h.starts
      rw [List.replicate_zero, List.nil_append] at hread ⊢
      rw [plainBreaks] at hread ⊢
      simpa [h.noSeparator rfl] using hread
  | succ m =>
    rw [List.replicate_succ, List.cons_append, plainBreaks, atSeparator_of_isWhite (by decide)]
    simp [plainBreaks_spaces m h.starts]

/-- A line end and the indentation of the next line are read as one space. -/
lemma plainGap_newLine {m : Nat} {tail : List Char} (h : StartsLine m tail)
    (index line column : Nat) :
    plainGap ⟨'\n' :: (List.replicate m ' ' ++ tail), index, line, column⟩ =
      ⟨[' '], ⟨tail, index + 1 + m, line + 1, m⟩, true⟩ := by
  have hend := lineEnd?_of_isBreak (c := '\n') (by decide) (List.replicate m ' ' ++ tail)
  simp [plainGap, Cursor.skip, hend, plainBreaks_startsLine h, Cursor.skip_newLine, readBreak,
    foldedBreaks]

lemma plainGap_spaces (n : Nat) {after : List Char} (h : endsWord after = false)
    (index line column : Nat) :
    plainGap ⟨List.replicate n ' ' ++ after, index, line, column⟩ =
      ⟨List.replicate n ' ', ⟨after, index + n, line, column + n⟩, false⟩ := by
  obtain ⟨c, cs, rfl, hc⟩ := exists_of_not_endsWord h
  have hspace : c ≠ ' ' := ne_of_not_isWhite hc (by decide)
  have htake : (List.replicate n ' ' ++ c :: cs).takeWhile (· == ' ') = List.replicate n ' ' := by
    rw [List.takeWhile_append_of_pos (by simp)]
    simp [hspace]
  simp [plainGap, htake, Cursor.skip_spaces, lineEnd?_of_not_isWhite hc]

/-! ## Runs -/

/-- A text that can be read as the rest of a plain one from the start of a word on. -/
structure PlainRest (cs : List Char) : Prop where
  showable : ∀ c ∈ cs, Style.isShowable c = true ∧ isBreak c = false
  noHash : cs.head? ≠ some '#'
  noIndicator : ∃ before, Style.holdsIndicator before cs = false
  noSpaceEnd : cs.getLast? ≠ some ' '

lemma holdsIndicator_append {before : Char} {xs ys : List Char}
    (h : Style.holdsIndicator before (xs ++ ys) = false) :
    Style.holdsIndicator (xs.getLastD before) ys = false := by
  induction xs generalizing before with
  | nil => exact h
  | cons x xs ih =>
    rw [List.cons_append, Style.holdsIndicator, Bool.or_eq_false_iff] at h
    rw [List.getLastD_cons]
    exact ih h.2

/-- A word of a plain text ends before its colon, if there is one, would end it. -/
lemma plainSpan_word {before : Char} {w after rest : List Char}
    (hw : ∀ c ∈ w, isWhite c = false) (hafter : endsWord after = true)
    (hrest : endsWord rest = true) (h : Style.holdsIndicator before (w ++ after) = false) :
    plainSpan false (w ++ rest) = w.length := by
  induction w generalizing before with
  | nil =>
    cases rest with
    | nil => rfl
    | cons c rest =>
      have hc : isWhite c = true := hrest
      simp [plainSpan, hc]
  | cons c w ih =>
    rw [List.cons_append, Style.holdsIndicator, Bool.or_eq_false_iff, Bool.or_eq_false_iff] at h
    have hc : isWhite c = false := hw c List.mem_cons_self
    have hends : endsWord (w ++ rest) = endsWord (w ++ after) := by
      cases w with
      | nil => rw [List.nil_append, List.nil_append, hafter, hrest]
      | cons d w => rfl
    rw [List.cons_append, plainSpan, hends,
      ih (fun d hd => hw d (List.mem_cons_of_mem c hd)) h.2]
    simp only [Bool.and_eq_false_iff, beq_eq_false_iff_ne] at h
    simp [hc]
    tauto

/-- The first word of a plain text is no indicator, whatever follows it. -/
lemma startsWithIndicator_word {w cs : List Char} (hne : w ≠ []) (hcs : endsWord cs = true)
    (h : Style.startsWithIndicator (w ++ cs) = false) (more : List Char) :
    Style.startsWithIndicator (w ++ more) = false := by
  obtain ⟨c, w, rfl⟩ := List.exists_cons_of_ne_nil hne
  cases w with
  | nil =>
    simp only [List.cons_append, List.nil_append, Style.startsWithIndicator, hcs, Bool.and_true,
      Bool.or_eq_false_iff] at h ⊢
    exact ⟨h.1, by rw [h.2, Bool.false_and]⟩
  | cons d w => exact h

lemma PlainRest.not_isWhite {cs w : List Char} (h : PlainRest cs) (hw : ∀ c ∈ w, c ∈ cs)
    (hspace : ∀ c ∈ w, c ≠ ' ') : ∀ c ∈ w, isWhite c = false ∧ Cursor.Inline c := by
  intro c hc
  obtain ⟨hshow, hbreak⟩ := h.showable c (hw c hc)
  have hwhite := not_isWhite_of_isShowable hshow (hspace c hc) hbreak
  have hreturn : c ≠ '\r' := ne_of_not_isWhite hwhite (by decide)
  have hmark : c ≠ '\ufeff' := by
    rintro rfl
    revert hshow
    decide
  exact ⟨hwhite, by simp [isLineEnd, hreturn, hbreak], hmark⟩

/-- After a word and the spaces that follow it, the rest of a plain text goes on. -/
lemma PlainRest.tail {w cs : List Char} {n : Nat} (hn : 0 < n) (hcs : cs ≠ [])
    (h : PlainRest (w ++ (List.replicate n ' ' ++ cs))) : PlainRest cs := by
  obtain ⟨before, hholds⟩ := h.noIndicator
  rw [← List.append_assoc] at hholds
  have hlast : (w ++ List.replicate n ' ').getLastD before = ' ' := by
    obtain ⟨n, rfl⟩ := Nat.exists_eq_succ_of_ne_zero (by omega : n ≠ 0)
    simp [List.replicate_succ', List.getLastD_eq_getLast?]
  have hcut := holdsIndicator_append hholds
  rw [hlast] at hcut
  refine ⟨fun c hc => h.showable c (by simp [hc]), ?_, ⟨' ', hcut⟩, ?_⟩
  · obtain ⟨c, cs, rfl⟩ := List.exists_cons_of_ne_nil hcs
    rw [Style.holdsIndicator] at hcut
    have hwhite : isWhite ' ' = true := by decide
    simp only [hwhite, Bool.and_true, Bool.or_eq_false_iff, beq_eq_false_iff_ne] at hcut
    simpa using hcut.1.2
  · have hend := h.noSpaceEnd
    rwa [List.getLast?_append_of_ne_nil _ (by simp [hcs]),
      List.getLast?_append_of_ne_nil _ hcs] at hend

/-- A plain text is one word, or a word and spaces before the rest of it. -/
lemma PlainRest.cases {w : List Char} {ps : List Piece} (halt : Alternating (.word w :: ps))
    (h : PlainRest (w ++ ps.flatMap Piece.chars)) :
    ps = [] ∨ ∃ n w' ps', ps = .spaces n :: .word w' :: ps' ∧ 0 < n ∧
      Alternating (.word w' :: ps') ∧ PlainRest (w' ++ ps'.flatMap Piece.chars) := by
  obtain ⟨-, hhead, halt⟩ := halt
  match ps, hhead, halt, h with
  | [], _, _, _ => exact .inl rfl
  | .word _ :: _, hhead, _, _ => cases hhead _ rfl
  | .breaks bs :: _, _, halt, h =>
    obtain ⟨b, bs, rfl⟩ := List.exists_cons_of_ne_nil halt.1.1
    have hbreak := (h.showable b (by simp [Piece.chars])).2
    rw [halt.1.2 b List.mem_cons_self] at hbreak
    cases hbreak
  | [.spaces n], _, halt, h =>
    have hn : 0 < n := halt.1
    obtain ⟨n, rfl⟩ := Nat.exists_eq_succ_of_ne_zero (by omega : n ≠ 0)
    exact absurd (by simp [Piece.chars, List.replicate_succ']) h.noSpaceEnd
  | .spaces n :: .spaces _ :: _, _, halt, _ => cases halt.2.1 _ rfl
  | .spaces n :: .breaks _ :: _, _, halt, _ => cases halt.2.1 _ rfl
  | .spaces n :: .word w' :: ps', _, halt, h =>
    refine .inr ⟨n, w', ps', rfl, halt.1, halt.2.2, PlainRest.tail halt.1 ?_ h⟩
    simp [halt.2.2.1.1]

/-- The first word of a plain text is read up to the gap after it. -/
lemma plainText?_word {w cs rest : List Char} (hne : w ≠ []) (hspace : ∀ c ∈ w, c ≠ ' ')
    (h : PlainRest (w ++ cs)) (hcs : endsWord cs = true) (hrest : endsWord rest = true)
    {need : Int} {fuel index line column : Nat} {gap : PlainGap}
    (hgap : plainGap ⟨rest, index + w.length, line, column + w.length⟩ = gap) :
    let stops := gap.text.isEmpty || gap.cursor.peek == some '#' || gap.cursor.column < need
    (stops = true → plainText? false need (fuel + 1) ⟨w ++ rest, index, line, column⟩ =
      (w, gap.cursor, gap.newLine)) ∧
    ∀ c text place newLine, stops = false →
      plainText? false need fuel gap.cursor = (c :: text, place, newLine) →
      plainText? false need (fuel + 1) ⟨w ++ rest, index, line, column⟩ =
        (w ++ gap.text ++ c :: text, place, newLine) := by
  obtain ⟨before, hholds⟩ := h.noIndicator
  have hw := h.not_isWhite (fun c hc => List.mem_append_left cs hc) hspace
  have hspan := plainSpan_word (fun c hc => (hw c hc).1) hcs hrest hholds
  have hskip := Cursor.skip_inline (fun c hc => (hw c hc).2) rest index line column
  have hhash : (Cursor.peek ⟨w ++ rest, index, line, column⟩ == some '#') = false := by
    have hhead := h.noHash
    obtain ⟨c, w, rfl⟩ := List.exists_cons_of_ne_nil hne
    simpa [Cursor.peek] using hhead
  have hlength : w.length ≠ 0 := by simpa using hne
  rw [plainText?]
  simp only [hhash, hspan, hskip, hgap, hlength, Bool.false_eq_true, ↓reduceIte, List.take_left,
    Bool.not_false, Bool.true_and]
  constructor
  · intro hstops
    rw [if_pos hstops]
  · intro c text place newLine hstops hmore
    rw [if_neg (by simp [hstops]), hmore]

lemma endsWord_spaces {n : Nat} (hn : 0 < n) (cs : List Char) :
    endsWord (List.replicate n ' ' ++ cs) = true := by
  obtain ⟨n, rfl⟩ := Nat.exists_eq_succ_of_ne_zero (by omega : n ≠ 0)
  rfl

lemma foldPieces_word (indent column : Nat) (inner : Bool) (w : List Char) (ps : List Piece) :
    foldPieces indent (fun c => [c]) column inner (.word w :: ps) =
      w ++ foldPieces indent (fun c => [c]) (column + w.length) true ps := by
  simp [foldPieces]

/-- The gap before a word is written as it is or as a line end, and read as it was. -/
lemma plainGap_foldPieces {indent : Nat} (n : Nat) {need : Int} (hindent : need ≤ indent)
    (hpos : 0 < indent) {c : Char} (hc : isWhite c = false) (hhash : c ≠ '#')
    (w : List Char) (ps : List Piece) (column : Nat) (after : List Char)
    (index line here : Nat) (hhere : need ≤ here) :
    ∃ text column' index' line' here' newLine,
      text = foldPieces indent (fun c => [c]) column' true (.word (c :: w) :: ps) ∧
      text.length ≤ (foldPieces indent (fun c => [c]) column true
        (.spaces n :: .word (c :: w) :: ps)).length ∧
      need ≤ (here' : Nat) ∧
      plainGap ⟨foldPieces indent (fun c => [c]) column true (.spaces n :: .word (c :: w) :: ps) ++
          after, index, line, here⟩ =
        ⟨List.replicate n ' ', ⟨text ++ after, index', line', here'⟩, newLine⟩ := by
  rw [foldPieces]
  split_ifs with hfold
  · obtain ⟨rfl, -⟩ := hfold
    refine ⟨_, indent, index + 1 + indent, line + 1, indent, true, rfl, by simp, hindent, ?_⟩
    rw [foldPieces_word, newLine, List.cons_append, List.cons_append, List.append_assoc]
    refine plainGap_newLine ⟨?_, fun hzero => by omega⟩ index line here
    simpa [StartsToken] using ⟨hc, hhash⟩
  · refine ⟨_, column + n, index + n, line, here + n, false, rfl, by simp, by omega, ?_⟩
    rw [foldPieces_word, List.append_assoc]
    refine plainGap_spaces n ?_ index line here
    exact hc

/-- The runs of a plain text are read back up to a line that ends its block. -/
lemma plainText?_foldPieces {indent m : Nat} {need : Int} {tail : List Char}
    (hindent : need ≤ indent) (hm : (m : Int) < need) (htail : StartsLine m tail) {fuel : Nat}
    {w : List Char} {ps : List Piece} (halt : Alternating (.word w :: ps))
    (h : PlainRest (w ++ ps.flatMap Piece.chars)) {column : Nat} {inner : Bool} {text : List Char}
    (htext : text = foldPieces indent (fun c => [c]) column inner (.word w :: ps))
    (hfuel : text.length < fuel) {index line here : Nat} (hhere : need ≤ here) :
    ∃ index' line',
      plainText? false need fuel
          ⟨text ++ '\n' :: (List.replicate m ' ' ++ tail), index, line, here⟩ =
        (w ++ ps.flatMap Piece.chars, ⟨tail, index', line', m⟩, true) := by
  induction fuel generalizing w ps column inner text index line here with
  | zero => exact absurd hfuel (Nat.not_lt_zero _)
  | succ fuel ih =>
    obtain ⟨hne, hpure⟩ := halt.1
    have hspace : ∀ c ∈ w, c ≠ ' ' := fun c hc => (hpure c hc).1
    rw [foldPieces_word] at htext
    subst htext
    rcases h.cases halt with rfl | ⟨n, w', ps', rfl, hn, halt', h'⟩
    · -- the last word: the next line ends the block
      have hends : endsWord ('\n' :: (List.replicate m ' ' ++ tail)) = true := rfl
      have hread := @plainText?_word w [] _ hne hspace h rfl hends need fuel index line here _
        (plainGap_newLine htail _ _ _)
      simp only [foldPieces, List.append_nil, List.flatMap_nil]
      exact ⟨_, _, hread.1 (by simp [hm])⟩
    · -- further words: the gap before them leaves the reader in the block
      have hspace' : ∀ c ∈ w', c ≠ ' ' := fun c hc => (halt'.1.2 c hc).1
      have hwhite' := h'.not_isWhite (fun c hc => List.mem_append_left _ hc) hspace'
      obtain ⟨c, w', rfl⟩ := List.exists_cons_of_ne_nil halt'.1.1
      have hc := (hwhite' c List.mem_cons_self).1
      have hhash : c ≠ '#' := by simpa using h'.noHash
      obtain ⟨text, column', index', line', here', newLine, htext, hlength, hhere', hgap⟩ :=
        plainGap_foldPieces n hindent (by omega) hc hhash w' ps' (column + w.length)
          ('\n' :: (List.replicate m ' ' ++ tail)) (index + w.length) line (here + w.length)
          (by omega)
      have hlength' : 0 < w.length := List.length_pos_iff.mpr hne
      have hfuel' : text.length < fuel := by
        simp only [List.length_append] at hfuel
        omega
      obtain ⟨index'', line'', hmore⟩ := @ih _ _ halt' h' _ _ _ htext hfuel' index' line' _ hhere'
      have hends : endsWord (foldPieces indent (fun c => [c]) (column + w.length) true
          (.spaces n :: .word (c :: w') :: ps') ++ '\n' :: (List.replicate m ' ' ++ tail)) = true := by
        rw [foldPieces]
        split_ifs
        · rfl
        · rw [List.append_assoc]
          exact endsWord_spaces hn _
      have hpeek : (Cursor.mk (text ++ '\n' :: (List.replicate m ' ' ++ tail)) index' line'
          here').peek = some c := by
        rw [htext, foldPieces_word]
        rfl
      have hcolumn : ¬(here' : Int) < need := by omega
      have hgapText : (List.replicate n ' ').isEmpty = false := by
        simp
        omega
      have hread := (@plainText?_word w _ _ hne hspace h (endsWord_spaces hn _) hends need fuel index
        line here _ hgap).2 _ _ _ _ (by simp [hpeek, hgapText, hcolumn, hhash]) hmore
      refine ⟨index'', line'', ?_⟩
      rw [List.append_assoc, hread]
      simp [Piece.chars]

/-! ## Texts -/

lemma spaceMeetsBreak_of_no_break {cs : List Char} (h : ∀ c ∈ cs, isBreak c = false) :
    Style.spaceMeetsBreak cs = false := by
  induction cs with
  | nil => rfl
  | cons c cs ih =>
    have htail := ih fun d hd => h d (List.mem_cons_of_mem c hd)
    cases cs with
    | nil => rfl
    | cons d cs => simp [Style.spaceMeetsBreak, htail, h c (by simp), h d (by simp)]

lemma plainRest_of_allowsPlain {cs : List Char} (h : Style.allowsPlain cs = true) :
    PlainRest cs := by
  simp only [Style.allowsPlain, Style.hasOuterSpace, Style.hasIndicator, Bool.and_eq_true,
    Bool.not_eq_true', Bool.or_eq_false_iff, List.all_eq_true, List.any_eq_false,
    Bool.not_eq_true] at h
  obtain ⟨⟨⟨hshow, hbreak⟩, -, hlast⟩, ⟨-, hstarts⟩, hholds⟩ := h
  refine ⟨fun c hc => ⟨hshow c hc, hbreak c hc⟩, ?_, ?_, ?_⟩
  · intro hhash
    obtain ⟨rest, rfl⟩ : ∃ rest, cs = '#' :: rest := by
      simpa [List.head?_eq_some_iff] using hhash
    cases hstarts
  · cases cs with
    | nil => exact ⟨'a', rfl⟩
    | cons c rest =>
      refine ⟨'a', ?_⟩
      have hcolon : (c == ':' && endsWord rest) = false := by
        simp only [Style.startsWithIndicator, Bool.or_eq_false_iff] at hstarts
        by_contra hends
        have hends' : c = ':' ∧ endsWord rest = true := by simpa using hends
        simp [hends'.1, hends'.2] at hstarts
      have hwhite : isWhite 'a' = false := by decide
      rw [Style.holdsIndicator, hcolon, hwhite, Bool.and_false]
      exact hholds
  · intro hspace
    rw [hspace] at hlast
    cases hlast

lemma startsWithIndicator_of_allowsPlain {cs : List Char} (h : Style.allowsPlain cs = true) :
    Style.startsWithIndicator cs = false := by
  simp only [Style.allowsPlain, Style.hasIndicator, Bool.and_eq_true, Bool.not_eq_true',
    Bool.or_eq_false_iff] at h
  exact h.2.1.2

lemma pieces_of_allowsPlain {cs : List Char} (h : Style.allowsPlain cs = true) (hne : cs ≠ []) :
    ∃ w ps, pieces cs = .word w :: ps ∧ Alternating (.word w :: ps) ∧
      w ++ ps.flatMap Piece.chars = cs := by
  have hrest := plainRest_of_allowsPlain h
  have halt := alternating_pieces
    (spaceMeetsBreak_of_no_break fun c hc => (hrest.showable c hc).2)
  suffices hword : ∃ w ps, pieces cs = .word w :: ps by
    obtain ⟨w, ps, hpieces⟩ := hword
    refine ⟨w, ps, hpieces, hpieces ▸ halt, ?_⟩
    rw [← chars_pieces cs, hpieces]
    rfl
  obtain ⟨c, cs, rfl⟩ := List.exists_cons_of_ne_nil hne
  simp only [Style.allowsPlain, Style.hasOuterSpace, Bool.and_eq_true, Bool.not_eq_true',
    Bool.or_eq_false_iff] at h
  have hc : c ≠ ' ' ∧ isBreak c = false := by simpa using h.1.2.1
  rw [pieces, List.foldr_cons]
  unfold Piece.cons
  rw [if_neg hc.1, hc.2, if_neg Bool.false_ne_true]
  split
  · exact ⟨_, _, rfl⟩
  · exact ⟨_, _, rfl⟩

lemma endsWord_chars {w : List Char} {ps : List Piece} (h : Alternating (.word w :: ps)) :
    endsWord (ps.flatMap Piece.chars) = true := by
  obtain ⟨-, hhead, hps⟩ := h
  match ps, hhead, hps with
  | [], _, _ => rfl
  | .word _ :: _, hhead, _ => cases hhead _ rfl
  | .spaces n :: ps, _, hps => exact endsWord_spaces hps.1 _
  | .breaks bs :: ps, _, hps =>
    obtain ⟨b, bs, rfl⟩ := List.exists_cons_of_ne_nil hps.1.1
    exact isWhite_of_isBreak (hps.1.2 b List.mem_cons_self)

/-- A plain text starts with a word that is taken for nothing else. -/
lemma exists_word_plainText {cs : List Char} (h : Style.allowsPlain cs = true) (hne : cs ≠ [])
    (indent column : Nat) :
    ∃ w more, plainText indent column cs = w ++ more ∧ w ≠ [] ∧ (∀ c ∈ w, isWhite c = false) ∧
      w.head? ≠ some '#' ∧ ∀ rest, Style.startsWithIndicator (w ++ rest) = false := by
  have hrest := plainRest_of_allowsPlain h
  have hstarts := startsWithIndicator_of_allowsPlain h
  obtain ⟨w, ps, hpieces, halt, hchars⟩ := pieces_of_allowsPlain h hne
  rw [← hchars] at hrest hstarts
  have hw := hrest.not_isWhite (fun c hc => List.mem_append_left _ hc) fun c hc =>
    (halt.1.2 c hc).1
  refine ⟨w, _, by rw [plainText, hpieces, foldPieces_word], halt.1.1, fun c hc => (hw c hc).1, ?_,
    startsWithIndicator_word halt.1.1 (endsWord_chars halt) hstarts⟩
  rw [← List.head?_append_of_ne_nil w halt.1.1]
  exact hrest.noHash

/-- **A plain text is read back**, up to the line that ends its block. -/
lemma plainText?_plainText {cs : List Char} (h : Style.allowsPlain cs = true) (hne : cs ≠ [])
    {indent m : Nat} {need : Int} {tail : List Char} (hindent : need ≤ indent)
    (hm : (m : Int) < need) (htail : StartsLine m tail) (column : Nat) {fuel : Nat}
    (hfuel : (plainText indent column cs).length < fuel) (index line : Nat) {here : Nat}
    (hhere : need ≤ here) :
    ∃ index' line', plainText? false need fuel
        ⟨plainText indent column cs ++ '\n' :: (List.replicate m ' ' ++ tail), index, line, here⟩ =
      (cs, ⟨tail, index', line', m⟩, true) := by
  have hrest := plainRest_of_allowsPlain h
  obtain ⟨w, ps, hpieces, halt, hchars⟩ := pieces_of_allowsPlain h hne
  rw [← hchars] at hrest
  rw [plainText, hpieces] at hfuel ⊢
  obtain ⟨index', line', hread⟩ :=
    plainText?_foldPieces hindent hm htail halt hrest rfl hfuel hhere
  exact ⟨index', line', by rw [hread, hchars]⟩

lemma pieces_of_solid {w : List Char} (hne : w ≠ [])
    (h : ∀ c ∈ w, c ≠ ' ' ∧ isBreak c = false) : pieces w = [.word w] := by
  induction w with
  | nil => exact absurd rfl hne
  | cons c w ih =>
    obtain ⟨hspace, hbreak⟩ := h c List.mem_cons_self
    rw [pieces, List.foldr_cons, ← pieces]
    unfold Piece.cons
    rw [if_neg hspace, hbreak, if_neg Bool.false_ne_true]
    by_cases hw : w = []
    · subst hw
      rfl
    · rw [ih hw fun d hd => h d (List.mem_cons_of_mem c hd)]

/-- A text without spaces and line ends is written as it is. -/
lemma plainText_of_solid {w : List Char} (hne : w ≠ [])
    (h : ∀ c ∈ w, c ≠ ' ' ∧ isBreak c = false) (indent column : Nat) :
    plainText indent column w = w := by
  rw [plainText, pieces_of_solid hne h, foldPieces_word, foldPieces, List.append_nil]

/-! ## Keys -/

lemma ofText_eq_plain_iff {text : String} :
    Style.ofText text = .plain ↔
      Tag.ofPlain text = .str ∧ Style.allowsPlain text.toList = true := by
  unfold Style.ofText
  split_ifs with hplain hsingle
  · simpa using hplain
  · simpa using hplain
  · simpa using hplain

lemma ne_nil_of_ofText_eq_plain {text : String} (h : Style.ofText text = .plain) :
    text.toList ≠ [] := by
  intro hnil
  obtain rfl : text = "" := String.toList_eq_nil_iff.mp hnil
  revert h
  decide

/-- A short text that is written plain, without a space or a colon in it. -/
structure KeyWord (word : String) : Prop where
  style : Style.ofText word = .plain
  solid : ∀ c ∈ word.toList, c ≠ ' ' ∧ c ≠ ':'
  short : word.toList.length ≤ Scanner.keyReach

lemma plainSpan_key {w after : List Char} (hw : ∀ c ∈ w, isWhite c = false ∧ c ≠ ':')
    (hafter : endsWord after = true) : plainSpan false (w ++ ':' :: after) = w.length := by
  induction w with
  | nil => simp [plainSpan, hafter]
  | cons c w ih =>
    obtain ⟨hwhite, hcolon⟩ := hw c List.mem_cons_self
    simp [plainSpan, hwhite, hcolon, ih fun d hd => hw d (List.mem_cons_of_mem c hd)]

/-- A key is read up to its colon. -/
lemma KeyWord.plainText? {word : String} (h : KeyWord word) {after : List Char}
    (hafter : endsWord after = true) (need : Int) (fuel index line column : Nat) :
    plainText? false need (fuel + 1) ⟨word.toList ++ ':' :: after, index, line, column⟩ =
      (word.toList, ⟨':' :: after, index + word.toList.length, line, column + word.toList.length⟩,
        false) := by
  have hrest := plainRest_of_allowsPlain (ofText_eq_plain_iff.mp h.style).2
  have hw := hrest.not_isWhite (fun c hc => hc) fun c hc => (h.solid c hc).1
  have hspan := plainSpan_key (fun c hc => ⟨(hw c hc).1, (h.solid c hc).2⟩) hafter
  have hskip := Cursor.skip_inline (fun c hc => (hw c hc).2) (':' :: after) index line column
  have hgap : ∀ index column, plainGap ⟨':' :: after, index, line, column⟩ =
      ⟨[], ⟨':' :: after, index, line, column⟩, false⟩ := fun index column =>
    plainGap_spaces 0 rfl index line column
  have hne := ne_nil_of_ofText_eq_plain h.style
  have hhash : (Cursor.peek ⟨word.toList ++ ':' :: after, index, line, column⟩ == some '#') =
      false := by
    have hhead := hrest.noHash
    obtain ⟨c, w, hcw⟩ := List.exists_cons_of_ne_nil hne
    rw [hcw] at hhead ⊢
    simpa [Cursor.peek] using hhead
  have hlength : word.toList.length ≠ 0 := by simpa using hne
  rw [Yaml.plainText?]
  simp only [hhash, hspan, hskip, hgap, hlength, Bool.false_eq_true, ↓reduceIte, List.take_left]
  rfl

end PrintSpec.Yaml
