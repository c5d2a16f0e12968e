import PrintSpec.Document.Yaml.Token
import PrintSpec.Document.Yaml.Writer
import PrintSpec.Proofs.Yaml.Plain

/-!
# Runs of the scanner

`Scanner.Yields` says which tokens are read from a state on.  A lemma about it goes backwards: the
tokens of a state are those of the state after the next mark, so that the lemmas for dashes, keys,
spaces and line ends compose to those for whole values.

Between two marks no key is pending (`Scanner.clear`), except after a word that may be a key.  There
the colon follows at once, and the tokens that announce the key are put in before the word; the word
and its colon are therefore one step here (`Scanner.yields_key`).
-/

namespace PrintSpec.Yaml

namespace Scanner

/-! ## Runs of the scanner -/

/-- From this state on the rest of the text is read, and `ts` are all the tokens then. -/
def Yields (s : Scanner) (ts : List Token) : Prop :=
  ∃ fuel ≤ s.cursor.rest.length + 1, s.scan fuel = .ok ts

lemma scan_mono {s : Scanner} {ts : List Token} {fuel fuel' : Nat} (h : s.scan fuel = .ok ts)
    (hle : fuel ≤ fuel') : s.scan fuel' = .ok ts := by
  induction fuel generalizing s fuel' with
  | zero => cases h
  | succ fuel ih =>
    obtain ⟨fuel', rfl⟩ := Nat.exists_eq_succ_of_ne_zero (by omega : fuel' ≠ 0)
    rw [scan] at h ⊢
    cases hnext : s.advance with
    | error fault => simp [hnext] at h
    | ok next =>
      simp only [hnext] at h ⊢
      split at h
      · rename_i hend
        rw [if_pos hend, h]
      · rename_i hend
        rw [if_neg hend]
        exact ih h (by omega)

/-- One token further. -/
lemma yields_of_advance {s t : Scanner} {ts : List Token} (hnext : s.advance = .ok t)
    (hend : s.atEnd = false) (hlt : t.cursor.rest.length < s.cursor.rest.length)
    (h : t.Yields ts) : s.Yields ts := by
  obtain ⟨fuel, hfuel, hscan⟩ := h
  refine ⟨fuel + 1, by omega, ?_⟩
  rw [scan, hnext]
  simp [hend, hscan]

/-- A state from which the next token is read in the same way. -/
lemma yields_of_same {s t : Scanner} {ts : List Token} (hnext : s.advance = t.advance)
    (hend : s.atEnd = t.atEnd) (hle : t.cursor.rest.length ≤ s.cursor.rest.length)
    (h : t.Yields ts) : s.Yields ts := by
  obtain ⟨fuel, hfuel, hscan⟩ := h
  refine ⟨fuel, by omega, ?_⟩
  cases fuel with
  | zero => cases hscan
  | succ fuel =>
    rw [scan] at hscan ⊢
    rw [hnext, hend]
    cases hadvance : t.advance with
    | error fault => simp [hadvance] at hscan
    | ok next => simpa [hadvance] using hscan

/-! ## States between keys -/

/-- A state outside of brackets in which no key is pending. -/
def clear (cursor : Cursor) (tokens : List Token) (indent : Int) (indents : List Int)
    (keyAllowed : Bool) : Scanner :=
  { cursor, tokens, indent, indents, keyAllowed }

section

variable {tail : List Char} {index line column : Nat} {tokens ts : List Token} {indent : Int}
  {indents : List Int} {keyAllowed : Bool}

lemma gapLength_of_startsToken (h : StartsToken tail) : gapLength false tail = 0 := by
  cases tail with
  | nil => rfl
  | cons c cs =>
    obtain ⟨hc, hhash⟩ := h c rfl
    have hend : isLineEnd c = false := by
      simp [isLineEnd, isBreak_of_not_isWhite hc, ne_of_not_isWhite (d := '\r') hc (by decide)]
    simp [gapLength, hend, hhash, ne_of_not_isWhite (d := ' ') hc (by decide)]

lemma gapLength_spaces (n : Nat) (h : StartsToken tail) :
    gapLength false (List.replicate n ' ' ++ tail) = n := by
  induction n with
  | zero => exact gapLength_of_startsToken h
  | succ n ih =>
    have hend : isLineEnd ' ' = false := by decide
    simp [List.replicate_succ, gapLength, hend, ih]

lemma crossGap_clear (h : StartsToken tail) :
    (clear ⟨tail, index, line, column⟩ tokens indent indents keyAllowed).crossGap =
      clear ⟨tail, index, line, column⟩ tokens indent indents keyAllowed := by
  simp [crossGap, clear, gapLength_of_startsToken h, Cursor.skip]

/-- A gap before the next token is passed over. -/
lemma yields_of_crossGap {s : Scanner} (hgap : s.crossGap =
      clear ⟨tail, index, line, column⟩ tokens indent indents keyAllowed)
    (h : StartsToken tail)
    (hyields : (clear ⟨tail, index, line, column⟩ tokens indent indents keyAllowed).Yields ts) :
    s.Yields ts := by
  have hcross := hgap.trans (crossGap_clear h).symm
  have hlength : tail.length ≤ s.cursor.rest.length := by
    have hrest : s.crossGap.cursor.rest = tail := by rw [hgap]; rfl
    rw [← hrest, crossGap, Cursor.rest_skip, List.length_drop]
    omega
  refine yields_of_same ?_ ?_ hlength hyields
  · rw [advance, hcross, advance]
  · rw [atEnd, hcross, atEnd]

lemma yields_space (h : StartsToken tail)
    (hyields : (clear ⟨tail, index + 1, line, column + 1⟩ tokens indent indents keyAllowed).Yields
      ts) :
    (clear ⟨' ' :: tail, index, line, column⟩ tokens indent indents keyAllowed).Yields ts := by
  refine yields_of_crossGap ?_ h hyields
  have hgap := gapLength_spaces 1 h
  have hskip := Cursor.skip_spaces 1 tail index line column
  simp only [List.replicate_one, List.singleton_append] at hgap hskip
  simp [crossGap, clear, hgap, hskip]

lemma yields_newLine {m : Nat} (h : StartsToken tail)
    (hyields : (clear ⟨tail, index + 1 + m, line + 1, m⟩ tokens indent indents true).Yields ts) :
    (clear ⟨'\n' :: (List.replicate m ' ' ++ tail), index, line, column⟩ tokens indent indents
      keyAllowed).Yields ts := by
  refine yields_of_crossGap ?_ h hyields
  have hend : isLineEnd '\n' = true := by decide
  have hskip := Cursor.skip_newLine m tail index line column
  rw [Nat.add_comm 1 m] at hskip
  simp [crossGap, clear, gapLength, hend, gapLength_spaces m h, hskip, inFlow]

/-! ## Blocks -/

lemma advance_clear (h : StartsToken tail) :
    (clear ⟨tail, index, line, column⟩ tokens indent indents keyAllowed).advance =
      let s := endBlocks column indents
        (clear ⟨tail, index, line, column⟩ tokens indent indents keyAllowed)
      match s.cursor.rest with
      | [] => (s.unwind (-1)).dropKey
      | c :: rest => s.token c rest := by
  rw [advance, crossGap_clear h]
  rfl

lemma atEnd_clear (h : StartsToken tail) :
    (clear ⟨tail, index, line, column⟩ tokens indent indents keyAllowed).atEnd = tail.isEmpty := by
  rw [atEnd, crossGap_clear h]
  rfl

/-- A token that is indented less than the block ends it. -/
lemma yields_blockEnd {outer : Int} (h : StartsToken tail) (hcolumn : (column : Int) < indent)
    (hyields : (clear ⟨tail, index, line, column⟩ (tokens ++ [.blockEnd]) outer indents
      keyAllowed).Yields ts) :
    (clear ⟨tail, index, line, column⟩ tokens indent (outer :: indents) keyAllowed).Yields ts := by
  refine yields_of_same ?_ ?_ ?_ hyields
  · rw [advance_clear h, advance_clear h, endBlocks]
    simp only [clear, hcolumn, ↓reduceIte]
    rfl
  · rw [atEnd_clear h, atEnd_clear h]
  · exact le_rfl

lemma endBlocks_of_le {s : Scanner} {column : Int} (h : s.indent ≤ column) (indents : List Int) :
    endBlocks column indents s = s := by
  cases indents with
  | nil => rfl
  | cons outer indents => rw [endBlocks, if_neg (by omega)]

lemma advance_token {c : Char} {rest : List Char} (h : StartsToken (c :: rest))
    (hcolumn : indent ≤ column) :
    (clear ⟨c :: rest, index, line, column⟩ tokens indent indents keyAllowed).advance =
      (clear ⟨c :: rest, index, line, column⟩ tokens indent indents keyAllowed).token c rest := by
  rw [advance_clear h, endBlocks_of_le hcolumn]
  rfl

/-- One token further, which starts here. -/
lemma yields_of_token {c : Char} {rest : List Char} {next : Scanner}
    (h : StartsToken (c :: rest)) (hcolumn : indent ≤ column)
    (hnext : (clear ⟨c :: rest, index, line, column⟩ tokens indent indents keyAllowed).token c rest =
      .ok next)
    (hlength : next.cursor.rest.length ≤ rest.length) (hyields : next.Yields ts) :
    (clear ⟨c :: rest, index, line, column⟩ tokens indent indents keyAllowed).Yields ts := by
  refine yields_of_advance ((advance_token h hcolumn).trans hnext) ?_ ?_ hyields
  · rw [atEnd_clear h]
    rfl
  · exact Nat.lt_succ_of_le hlength

/-- How a block at a column is entered: it is the current one, or it is indented deeper than that and
starts here, with a token that says so. -/
inductive EntersBlock (start : Token) (column : Nat) :
    Int → List Int → List Token → List Int → Prop
  | here {indents : List Int} : EntersBlock start column column indents [] indents
  | deeper {indent : Int} {indents : List Int} (h : indent < column) :
    EntersBlock start column indent indents [start] (indent :: indents)

variable {start : Token} {opening : List Token} {indents' : List Int}

lemma EntersBlock.le (h : EntersBlock start column indent indents opening indents') :
    indent ≤ column := by
  cases h with
  | here => exact le_rfl
  | deeper h => omega

lemma EntersBlock.startBlock {s : Scanner}
    (h : EntersBlock start column s.indent s.indents opening indents') (position : Nat) :
    s.startBlock column position start =
      { s with
        tokens := s.tokens.take position ++ (opening ++ s.tokens.drop position)
        indent := column, indents := indents' } := by
  obtain ⟨cursor, tokens, indent, indents, level, keyAllowed, pending⟩ := s
  cases h with
  | here => simp [Scanner.startBlock]
  | deeper h => simp [Scanner.startBlock, h]

/-- The dash of an item. -/
lemma yields_dash {rest : List Char}
    (h : EntersBlock .blockSequenceStart column indent indents opening indents')
    (hyields : (clear ⟨' ' :: rest, index + 1, line, column + 1⟩
      (tokens ++ opening ++ [.blockEntry]) column indents' true).Yields ts) :
    (clear ⟨'-' :: ' ' :: rest, index, line, column⟩ tokens indent indents true).Yields ts := by
  have hstarts : StartsToken ('-' :: ' ' :: rest) := by
    simp [StartsToken]
    decide
  refine yields_of_token hstarts h.le ?_ le_rfl hyields
  have hmark : atSeparator ('-' :: ' ' :: rest) = false := by
    simp [atSeparator, Style.startsLikeSeparator]
  have hword : endsWord (' ' :: rest) = true := rfl
  have hnext : Cursor.next ⟨'-' :: ' ' :: rest, index, line, column⟩ =
      ⟨' ' :: rest, index + 1, line, column + 1⟩ := by
    simp [Cursor.next, isBreak]
  have hblock := @EntersBlock.startBlock _ _ _ _
    (clear ⟨'-' :: ' ' :: rest, index, line, column⟩ tokens indent indents true) h tokens.length
  have hdash : (clear ⟨'-' :: ' ' :: rest, index, line, column⟩ tokens indent indents true).dash =
      .ok (clear ⟨' ' :: rest, index + 1, line, column + 1⟩ (tokens ++ opening ++ [.blockEntry])
        column indents' true) := by
    simp only [clear] at hblock
    simp [dash, startHere, hblock, dropKey, inFlow, clear, skip, push, Cursor.skip, hnext, bind,
      Except.bind, pure, Except.pure]
  rw [← hdash]
  simp [token, hmark, hword]

/-! ## Keys -/

/-- A character that starts no other token starts a plain scalar. -/
lemma token_eq_plain {s : Scanner} {c : Char} {rest : List Char} (hflow : s.inFlow = false)
    (hcolumn : s.cursor.column ≠ 0) (hc : isWhite c = false)
    (h : Style.startsWithIndicator (c :: rest) = false) : s.token c rest = s.plain := by
  rw [Style.startsWithIndicator, Bool.or_eq_false_iff] at h
  obtain ⟨hmark, hsolitary⟩ := h
  have hstarts : s.startsPlain c rest = true := by
    unfold startsPlain
    rw [hc, hflow, Style.startsWithIndicator, hmark, Bool.false_or, Bool.false_or]
    by_cases hthree : ['?', ':', '-'].contains c = true
    · rw [hthree, Bool.true_and] at hsolitary
      rw [hsolitary]
      have hcases : c = '?' ∨ c = ':' ∨ c = '-' := by simpa using hthree
      rcases hcases with rfl | rfl | rfl <;> rfl
    · simp only [Bool.not_eq_true] at hthree
      rw [hthree]
      rfl
  have hnot : ∀ d ∈ ['?', ':', '-'], (c == d && endsWord rest) = false := by
    intro d hd
    by_contra hboth
    have hboth' : c = d ∧ endsWord rest = true := by simpa using hboth
    rw [hboth'.1, hboth'.2] at hsolitary
    simp [hd] at hsolitary
  have hne : ∀ d ∈ ['[', '{', ']', '}', ',', '\'', '"'], (c == d) = false := by
    intro d hd
    by_contra hsame
    obtain rfl : c = d := by simpa using hsame
    have hall : ∀ d ∈ ['[', '{', ']', '}', ',', '\'', '"'], ['#', ',', '[', ']', '{', '}', '&', '*',
        '!', '|', '>', '\'', '"', '%', '@', '\x60'].contains d = true := by
      rw [← List.all_iff_forall_prop]
      decide
    rw [hall c hd] at hmark
    cases hmark
  simp only [List.mem_cons, List.not_mem_nil, or_false, forall_eq_or_imp, forall_eq] at hnot hne
  simp only [token, beq_eq_false_iff_ne.mpr hcolumn, hflow, hnot, hne, hstarts, Bool.false_and,
    Bool.false_or, Bool.false_eq_true, ↓reduceIte]

/-- One plain scalar further. -/
lemma yields_of_plain {text : List Char} {next : Scanner} (hne : text ≠ [])
    (hstarts : StartsToken text) (hindicator : Style.startsWithIndicator text = false)
    (hindent : indent ≤ column) (hcolumn : column ≠ 0)
    (hplain : (clear ⟨text, index, line, column⟩ tokens indent indents keyAllowed).plain = .ok next)
    (hlength : next.cursor.rest.length < text.length) (hyields : next.Yields ts) :
    (clear ⟨text, index, line, column⟩ tokens indent indents keyAllowed).Yields ts := by
  obtain ⟨c, rest, rfl⟩ := List.exists_cons_of_ne_nil hne
  have htoken := token_eq_plain (s := clear ⟨c :: rest, index, line, column⟩ tokens indent indents
    keyAllowed) rfl hcolumn (hstarts c rfl).1 hindicator
  exact yields_of_token hstarts hindent (htoken.trans hplain) (Nat.le_of_lt_succ hlength) hyields

lemma startsToken_word {w : List Char} (hne : w ≠ []) (hwhite : ∀ c ∈ w, isWhite c = false)
    (hhash : w.head? ≠ some '#') (more : List Char) : StartsToken (w ++ more) := by
  obtain ⟨c, w, rfl⟩ := List.exists_cons_of_ne_nil hne
  have hc : c ≠ '#' := by simpa using hhash
  simpa [StartsToken] using ⟨hwhite c List.mem_cons_self, hc⟩

/-- The state after a word that may be a key, before the colon that follows.  The word started at the
given place. -/
def afterWord (word : String) (after : List Char) (index line column : Nat) (tokens : List Token)
    (indent : Int) (indents : List Int) : Scanner :=
  { cursor := ⟨':' :: after, index + word.toList.length, line, column + word.toList.length⟩
    tokens := tokens ++ [.plain word], indent, indents, keyAllowed := false
    pending := [⟨0, tokens.length, indent == column, index, line, column⟩] }

/-- A word at which a key may start is kept as a pending key. -/
lemma yields_word {word : String} (h : KeyWord word) {after : List Char}
    (hafter : endsWord after = true) (hindent : indent ≤ column) (hcolumn : column ≠ 0)
    (hyields : (afterWord word after index line column tokens indent indents).Yields ts) :
    (clear ⟨word.toList ++ ':' :: after, index, line, column⟩ tokens indent indents true).Yields
      ts := by
  have hallows := (ofText_eq_plain_iff.mp h.style).2
  have hrest := plainRest_of_allowsPlain hallows
  have hne := ne_nil_of_ofText_eq_plain h.style
  have hwhite := hrest.not_isWhite (fun _ hc => hc) fun c hc => (h.solid c hc).1
  have hindicator : Style.startsWithIndicator (word.toList ++ []) = false := by
    rw [List.append_nil]
    exact startsWithIndicator_of_allowsPlain hallows
  have hread := h.plainText? hafter (indent + 1) (word.toList ++ ':' :: after).length index line
    column
  refine yields_of_plain (by simp) (startsToken_word hne (fun c hc => (hwhite c hc).1) hrest.noHash _)
    (startsWithIndicator_word hne rfl hindicator _) hindent hcolumn ?_ ?_ hyields
  · simp only [clear, plain, saveKey, ↓reduceIte, dropKey, List.any_nil, Bool.false_eq_true,
      List.filter_nil, bind, Except.bind, pure, Except.pure, List.nil_append, inFlow]
    simp only [bne_self_eq_false, Bool.not_false, Bool.true_and, hread, push, String.ofList_toList,
      afterWord]
  · have hpos : 0 < word.toList.length := List.length_pos_iff.mpr hne
    simp only [afterWord, List.length_append, List.length_cons]
    omega

lemma crossGap_afterWord (word : String) (after : List Char) :
    (afterWord word after index line column tokens indent indents).crossGap =
      afterWord word after index line column tokens indent indents := by
  have hgap : gapLength false (':' :: after) = 0 := rfl
  simp [crossGap, afterWord, hgap, Cursor.skip]

lemma dropStale_afterWord {word : String} (h : word.toList.length ≤ keyReach) (after : List Char) :
    (afterWord word after index line column tokens indent indents).dropStale =
      .ok (afterWord word after index line column tokens indent indents) := by
  have hreach : ¬keyReach < word.toList.length := by omega
  simp [dropStale, afterWord, isStale, hreach]

/-- The colon after a word makes it a key and enters the block of the key. -/
lemma colon_afterWord (word : String) (after : List Char)
    (h : EntersBlock .blockMappingStart column indent indents opening indents') :
    (afterWord word after index line column tokens indent indents).colon =
      .ok (clear ⟨after, index + word.toList.length + 1, line, column + word.toList.length + 1⟩
        (tokens ++ opening ++ [.key, .plain word, .value]) column indents' false) := by
  have hnext : Cursor.next ⟨':' :: after, index + word.toList.length, line,
      column + word.toList.length⟩ =
        ⟨after, index + word.toList.length + 1, line, column + word.toList.length + 1⟩ := by
    simp [Cursor.next, isBreak]
  cases h with
  | here =>
    simp [colon, afterWord, inFlow, startBlock, skip, push, Cursor.skip, hnext, clear]
  | deeper h =>
    simp [colon, afterWord, inFlow, startBlock, h, skip, push, Cursor.skip, hnext, clear]

lemma yields_colon {word : String} (hshort : word.toList.length ≤ keyReach) {after : List Char}
    (hafter : endsWord after = true) (hcolumn : column ≠ 0)
    (h : EntersBlock .blockMappingStart column indent indents opening indents')
    (hyields : (clear ⟨after, index + word.toList.length + 1, line,
        column + word.toList.length + 1⟩ (tokens ++ opening ++ [.key, .plain word, .value]) column
      indents' false).Yields ts) :
    (afterWord word after index line column tokens indent indents).Yields ts := by
  have hle : indent ≤ ((column + word.toList.length : Nat) : Int) := by
    have := h.le
    omega
  have hblocks : (afterWord word after index line column tokens indent indents).unwind
      (column + word.toList.length : Nat) =
        afterWord word after index line column tokens indent indents :=
    endBlocks_of_le hle indents
  have htoken : (afterWord word after index line column tokens indent indents).token ':' after =
      (afterWord word after index line column tokens indent indents).colon := by
    simp [token, afterWord, hafter, hcolumn]
  have hadvance : (afterWord word after index line column tokens indent indents).advance =
      (afterWord word after index line column tokens indent indents).colon := by
    rw [advance, crossGap_afterWord, dropStale_afterWord hshort]
    simp only [bind, Except.bind]
    rw [show (afterWord word after index line column tokens indent indents).cursor.column =
      column + word.toList.length from rfl, hblocks]
    exact htoken
  refine yields_of_advance (hadvance.trans (colon_afterWord word after h)) ?_ ?_ hyields
  · rw [atEnd, crossGap_afterWord]
    rfl
  · exact Nat.lt_succ_self _

/-- **A key with its colon**, which enters the block of the key. -/
lemma yields_key {word : String} (hword : KeyWord word) {after : List Char}
    (hafter : endsWord after = true) (hcolumn : column ≠ 0)
    (h : EntersBlock .blockMappingStart column indent indents opening indents')
    (hyields : ∀ index column', column < column' → (clear ⟨after, index, line, column'⟩
      (tokens ++ opening ++ [.key, .plain word, .value]) column indents' false).Yields ts) :
    (clear ⟨word.toList ++ ':' :: after, index, line, column⟩ tokens indent indents true).Yields
      ts :=
  yields_word hword hafter h.le hcolumn
    (yields_colon hword.short hafter hcolumn h (hyields _ _ (by omega)))

end

end Scanner

end PrintSpec.Yaml
