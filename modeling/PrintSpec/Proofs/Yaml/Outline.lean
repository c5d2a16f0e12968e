import PrintSpec.Proofs.Dump.Values
import PrintSpec.Proofs.Yaml.Numerals
import PrintSpec.Proofs.Yaml.Scanning

/-!
# The tokens of values

The values of a dump are nested in a narrow way (`Fits`): a document is a list of mappings, and under a
key stands a scalar, a list of mappings or a mapping.  Their text is read as tokens that depend on the
values alone, not on columns or on where lines are folded (`Scanner.valueTokens`).

A value ends where the next line starts, and a line that is indented less also ends blocks.  So each
statement reads a value together with the spaces of the line after it, whatever that line holds, and
the induction follows the writer: `Scanner.ReadsValue`, `Scanner.ReadsEntries` and
`Scanner.ReadsItems`.
-/

namespace PrintSpec.Yaml

/-- A scalar that a document is asked to keep, without halves of characters. -/
def IsWhole (s : Scalar) : Prop :=
  s.Kept ∧ ∀ codes, s ≠ .torn codes

mutual

/-- A value that can stand under a key at a column: lists hold mappings only, and keys are words, each
of them once.  The scalars stand so far to the left that a folded line has room for one. -/
def Fits (indent : Nat) : Value → Prop
  | .scalar s => IsWhole s ∧ indent + indentStep < lineWidth
  | .list vs => ItemsFit indent vs
  | .map es => es ≠ [] ∧ (es.map Prod.fst).Nodup ∧ EntriesFit (indent + indentStep) es

/-- Mappings that can be the items of a list at a column. -/
def ItemsFit (indent : Nat) : List Value → Prop
  | [] => True
  | v :: vs => (∃ es, v = .map es) ∧ Fits indent v ∧ ItemsFit indent vs

/-- Entries that can stand at a column. -/
def EntriesFit (indent : Nat) : List (Scalar × Value) → Prop
  | [] => True
  | (k, v) :: es => (∃ word, k = .str word ∧ KeyWord word) ∧ Fits indent v ∧ EntriesFit indent es

end

lemma itemsFit_iff {indent : Nat} {vs : List Value} :
    ItemsFit indent vs ↔ ∀ v ∈ vs, (∃ es, v = .map es) ∧ Fits indent v := by
  induction vs with
  | nil => simp [ItemsFit]
  | cons v vs ih => simp [ItemsFit, ih, and_assoc]

lemma entriesFit_iff {indent : Nat} {es : List (Scalar × Value)} :
    EntriesFit indent es ↔
      ∀ e ∈ es, (∃ word, e.1 = .str word ∧ KeyWord word) ∧ Fits indent e.2 := by
  induction es with
  | nil => simp [EntriesFit]
  | cons e es ih => simp [EntriesFit, ih, and_assoc]

namespace Scanner

variable {tail : List Char} {index line column indent m : Nat} {tokens ts : List Token}
  {indents : List Int}

/-! ## Scalars -/

/-- A plain scalar under a key, up to the start of the next line. -/
lemma yields_plainValue {cs : List Char} (h : Style.allowsPlain cs = true) (hne : cs ≠ [])
    (hcolumn : indent ≤ column) (hm : m ≤ indent) (htail : StartsLine m tail) (column' : Nat)
    (hyields : ∀ index line, (clear ⟨tail, index, line, m⟩
      (tokens ++ [.plain (String.ofList cs)]) indent indents true).Yields ts) :
    (clear ⟨' ' :: (plainText (indent + indentStep) column' cs ++
      '\n' :: (List.replicate m ' ' ++ tail)), index, line, column⟩ tokens indent indents
      false).Yields ts := by
  obtain ⟨w, more, htext, hword, hwhite, hhash, hindicator⟩ :=
    exists_word_plainText h hne (indent + indentStep) column'
  have hread := @plainText?_plainText cs h hne (indent + indentStep) m (indent + 1) tail
    (by unfold indentStep; omega) (by omega) htail column'
    ((plainText (indent + indentStep) column' cs ++ '\n' :: (List.replicate m ' ' ++ tail)).length +
      1) (by rw [List.length_append]; omega) (index + 1) line (column + 1) (by omega)
  obtain ⟨index', line', hread⟩ := hread
  have hplain : (clear ⟨plainText (indent + indentStep) column' cs ++
      '\n' :: (List.replicate m ' ' ++ tail), index + 1, line, column + 1⟩ tokens indent indents
      false).plain = .ok (clear ⟨tail, index', line', m⟩ (tokens ++ [.plain (String.ofList cs)])
        indent indents true) := by
    simp only [clear, plain, saveKey, Bool.false_eq_true, ↓reduceIte, bind, Except.bind, pure,
      Except.pure, inFlow, bne_self_eq_false, hread, push]
  rw [htext, List.append_assoc] at *
  have hstarts := startsToken_word hword hwhite hhash
    (more ++ '\n' :: (List.replicate m ' ' ++ tail))
  refine yields_space hstarts (yields_of_plain (by simp [hword]) hstarts (hindicator _) (by omega)
    (by omega) hplain ?_ (hyields _ _))
  have hpos : 0 < w.length := List.length_pos_iff.mpr hword
  simp only [clear, List.length_append, List.length_cons, List.length_replicate]
  omega

/-- A quoted scalar under a key, up to the start of the next line. -/
lemma yields_quotedValue {double : Bool} {text : List Char} {codes : List Nat}
    (h : ReadsBetweenQuotes double text codes) (hcolumn : indent ≤ column)
    (htail : StartsToken tail)
    (hyields : ∀ index line, (clear ⟨tail, index, line, m⟩
      (tokens ++ [.quoted (.ofCodes codes)]) indent indents true).Yields ts) :
    (clear ⟨' ' :: (text ++ '\n' :: (List.replicate m ' ' ++ tail)), index, line, column⟩ tokens
      indent indents false).Yields ts := by
  obtain ⟨body, rfl, hread⟩ := h
  have htext : quoteMark double :: body ++ [quoteMark double] ++
      '\n' :: (List.replicate m ' ' ++ tail) = quoteMark double :: (body ++ quoteMark double ::
        '\n' :: (List.replicate m ' ' ++ tail)) := by
    simp
  rw [htext]
  generalize hrest : body ++ quoteMark double :: '\n' :: (List.replicate m ' ' ++ tail) = rest
  have hlength : body.length < (quoteMark double :: rest).length + 1 := by
    rw [← hrest]
    simp
    omega
  have hmark : some '\n' ≠ some (quoteMark double) := by
    cases double <;> decide
  have hquoted := hread ('\n' :: (List.replicate m ' ' ++ tail)) _ hmark hlength
  rw [hrest] at hquoted
  obtain ⟨index', line', column', hskip⟩ := @Cursor.exists_skip_eq (body.length + 1 + 1)
    ⟨quoteMark double :: rest, index + 1, line, column + 1⟩ ('\n' :: (List.replicate m ' ' ++ tail))
    (by simp [← hrest])
  have htoken : (clear ⟨quoteMark double :: rest, index + 1, line, column + 1⟩ tokens indent indents
      false).token (quoteMark double) rest =
        .ok (clear ⟨'\n' :: (List.replicate m ' ' ++ tail), index', line', column'⟩
          (tokens ++ [.quoted (.ofCodes codes)]) indent indents false) := by
    have hscalar : (clear ⟨quoteMark double :: rest, index + 1, line, column + 1⟩ tokens indent indents
        false).token (quoteMark double) rest = (clear ⟨quoteMark double :: rest, index + 1, line,
          column + 1⟩ tokens indent indents false).quoted double := by
      cases double <;> simp [token, quoteMark, clear]
    rw [hscalar]
    simp only [quoted, saveKey, clear, Bool.false_eq_true, ↓reduceIte, bind, Except.bind, pure,
      Except.pure, Cursor.tail, List.drop_succ_cons, List.drop_zero, hquoted, skip, hskip, push]
  have hstarts : StartsToken (quoteMark double :: rest) := by
    cases double <;> simp [StartsToken, quoteMark] <;> decide
  refine yields_space hstarts (yields_of_token hstarts (by omega) htoken ?_
    (yields_newLine htail (hyields _ _)))
  simp [clear, ← hrest]
  omega

/-- The token of a scalar: a text in quotes comes with what it is read back as. -/
def scalarToken : Scalar → Token
  | .str s =>
    match Style.ofText s with
    | .plain => .plain s
    | style => .quoted (.str (String.ofList (style.reread s.toList)))
  | other => .plain (String.ofList (scalarText 0 0 other))

/-- A plain scalar that has to stay on its line. -/
lemma yields_solidValue {w : List Char} (h : Style.allowsPlain w = true) (hne : w ≠ [])
    (hspace : ∀ c ∈ w, c ≠ ' ') (hcolumn : indent ≤ column) (hm : m ≤ indent)
    (htail : StartsLine m tail)
    (hyields : ∀ index line, (clear ⟨tail, index, line, m⟩
      (tokens ++ [.plain (String.ofList w)]) indent indents true).Yields ts) :
    (clear ⟨' ' :: (w ++ '\n' :: (List.replicate m ' ' ++ tail)), index, line, column⟩ tokens
      indent indents false).Yields ts := by
  have hrest := plainRest_of_allowsPlain h
  have htext := plainText_of_solid hne (fun c hc => ⟨hspace c hc, (hrest.showable c hc).2⟩)
    (indent + indentStep) 0
  have hvalue := @yields_plainValue tail index line column indent m tokens ts indents w h hne
    hcolumn hm htail 0 hyields
  rwa [htext] at hvalue

lemma scalarToken_of_ne_str {s : Scalar} (h : ∀ text, s ≠ .str text) :
    scalarToken s = .plain (String.ofList (scalarText 0 0 s)) := by
  cases s with
  | str text => exact absurd rfl (h text)
  | _ => rfl

/-- The scalars other than texts are written as plain words. -/
lemma solid_scalarText {s : Scalar} (hs : IsWhole s) (h : ∀ text, s ≠ .str text) :
    Style.allowsPlain (scalarText 0 0 s) = true ∧ scalarText 0 0 s ≠ [] ∧
      (∀ c ∈ scalarText 0 0 s, c ≠ ' ') ∧
      ∀ indent column, scalarText indent column s = scalarText 0 0 s := by
  cases s with
  | null => exact ⟨by decide, by decide, List.all_iff_forall_prop.mp (by decide), fun _ _ => rfl⟩
  | bool b =>
    cases b <;>
      exact ⟨by decide, by decide, List.all_iff_forall_prop.mp (by decide), fun _ _ => rfl⟩
  | int n =>
    obtain ⟨n, -, rfl⟩ := hs.1
    have hdigits : ∀ d ∈ Nat.toDigits 10 n, d.isDigit := fun d hd =>
      Nat.isDigit_of_mem_toDigits (by decide) (by decide) hd
    rw [scalarText, toList_toString_natCast]
    refine ⟨allowsPlain_of_isDigit hdigits, Nat.toDigits_ne_nil, fun c hc => ?_, fun _ _ => ?_⟩
    · exact ne_of_isDigit (hdigits c hc) (by decide)
    · exact toList_toString_natCast n
  | str text => exact absurd rfl (h text)
  | double d => exact absurd hs.1 not_false
  | torn codes => exact absurd rfl (hs.2 codes)

/-- **A scalar under a key**, up to the start of the next line. -/
lemma yields_scalar {s : Scalar} (hs : IsWhole s) (hwidth : indent + indentStep < lineWidth)
    (hcolumn : indent ≤ column) (hm : m ≤ indent) (htail : StartsLine m tail) (column' : Nat)
    (hyields : ∀ index line, (clear ⟨tail, index, line, m⟩
      (tokens ++ [scalarToken s]) indent indents true).Yields ts) :
    (clear ⟨' ' :: (scalarText (indent + indentStep) column' s ++
      '\n' :: (List.replicate m ' ' ++ tail)), index, line, column⟩ tokens indent indents
      false).Yields ts := by
  by_cases hstr : ∃ text, s = .str text
  · obtain ⟨text, rfl⟩ := hstr
    have hpos : 0 < indent + indentStep := by
      unfold indentStep
      omega
    rw [scalarText]
    cases hstyle : Style.ofText text with
    | plain =>
      obtain ⟨-, hallows⟩ := ofText_eq_plain_iff.mp hstyle
      refine yields_plainValue hallows (ne_nil_of_ofText_eq_plain hstyle) hcolumn hm htail column' ?_
      simpa [scalarToken, hstyle] using hyields
    | singleQuoted =>
      have hread := reads_singleQuotedText (allowsSingle_of_ofText hstyle) hpos column'
      refine yields_quotedValue hread hcolumn htail.starts ?_
      simpa [scalarToken, hstyle, ofCodes_map_toNat] using hyields
    | doubleQuoted =>
      have hread := reads_doubleQuotedText hpos hwidth column' text.toList
      refine yields_quotedValue hread hcolumn htail.starts ?_
      simpa [scalarToken, hstyle, Style.reread, ofCodes_map_toNat] using hyields
  · obtain ⟨hallows, hne, hspace, htext⟩ := solid_scalarText hs fun text h => hstr ⟨text, h⟩
    rw [htext]
    refine yields_solidValue hallows hne hspace hcolumn hm htail ?_
    rwa [scalarToken_of_ne_str fun text h => hstr ⟨text, h⟩] at hyields

/-! ## Collections -/

/-- An empty list under a key, up to the start of the next line. -/
lemma yields_emptyList (hcolumn : indent ≤ column) (htail : StartsToken tail)
    (hyields : ∀ index line, (clear ⟨tail, index, line, m⟩
      (tokens ++ [.flowSequenceStart, .flowSequenceEnd]) indent indents true).Yields ts) :
    (clear ⟨' ' :: '[' :: ']' :: '\n' :: (List.replicate m ' ' ++ tail), index, line, column⟩ tokens
      indent indents false).Yields ts := by
  generalize hrest : '\n' :: (List.replicate m ' ' ++ tail) = rest
  -- the state between the two brackets
  let inside : Scanner :=
    { cursor := ⟨']' :: rest, index + 2, line, column + 2⟩
      tokens := tokens ++ [.flowSequenceStart], indent := indent, indents, level := 1 }
  have hstarts : StartsToken ('[' :: ']' :: rest) := by
    simp [StartsToken]
    decide
  have hopen : (clear ⟨'[' :: ']' :: rest, index + 1, line, column + 1⟩ tokens indent indents
      false).token '[' (']' :: rest) = .ok inside := by
    simp [token, clear, openBracket, saveKey, skip, push, Cursor.skip, Cursor.next, isBreak, bind,
      Except.bind, pure, Except.pure, inside]
  have hclose : inside.advance = .ok (clear ⟨rest, index + 3, line, column + 3⟩
      (tokens ++ [.flowSequenceStart, .flowSequenceEnd]) indent indents false) := by
    have hgap : gapLength false (']' :: rest) = 0 := rfl
    simp [advance, crossGap, hgap, dropStale, unwind, token, inFlow, closeBracket, dropKey, clear,
      skip, push, Cursor.skip, Cursor.next, isBreak, bind, Except.bind, pure, Except.pure, inside]
  have hinside : inside.Yields ts := by
    refine yields_of_advance hclose rfl (Nat.lt_succ_self _) ?_
    rw [← hrest]
    exact yields_newLine htail (hyields _ _)
  exact yields_space hstarts (yields_of_token hstarts (by omega) hopen le_rfl hinside)

/-- The token of a key. -/
def keyToken (k : Scalar) : Token :=
  .plain (String.ofList (keyText k))

mutual

/-- The tokens of a value under a key or after a dash. -/
def valueTokens : Value → List Token
  | .scalar s => [scalarToken s]
  | .list [] => [.flowSequenceStart, .flowSequenceEnd]
  | .list (v :: vs) => itemTokens (v :: vs)
  | .map es => .blockMappingStart :: entryTokens es ++ [.blockEnd]

/-- The tokens of items after dashes. -/
def itemTokens : List Value → List Token
  | [] => []
  | v :: vs => .blockEntry :: valueTokens v ++ itemTokens vs

/-- The tokens of the entries of a mapping. -/
def entryTokens : List (Scalar × Value) → List Token
  | [] => []
  | (k, v) :: es => .key :: keyToken k :: .value :: valueTokens v ++ entryTokens es

end

lemma writeEntries_inline (indent : Nat) {es : List (Scalar × Value)} (hne : es ≠ []) :
    writeEntries indent false es = List.replicate indent ' ' ++ writeEntries indent true es := by
  obtain ⟨e, es, rfl⟩ := List.exists_cons_of_ne_nil hne
  simp [writeEntries]

lemma writeItems_inline (indent : Nat) {vs : List Value} (hne : vs ≠ []) :
    writeItems indent false vs = List.replicate indent ' ' ++ writeItems indent true vs := by
  obtain ⟨v, vs, rfl⟩ := List.exists_cons_of_ne_nil hne
  simp [writeItems]

/-- What is read of a value under a key, up to the start of a line that is indented no deeper. -/
def ReadsValue (v : Value) : Prop :=
  ∀ ⦃indent m column column' index line : Nat⦄ ⦃tail : List Char⦄ ⦃tokens ts : List Token⦄
    ⦃indents : List Int⦄, Fits indent v → 0 < indent → m ≤ indent → StartsLine m tail →
    indent ≤ column →
    (∀ index line, (clear ⟨tail, index, line, m⟩ (tokens ++ valueTokens v) indent indents
      true).Yields ts) →
    (clear ⟨writeValue indent column' false v ++ (List.replicate m ' ' ++ tail), index, line,
      column⟩ tokens indent indents false).Yields ts

/-- What is read of the entries of a mapping at a column. -/
def ReadsEntries (es : List (Scalar × Value)) : Prop :=
  ∀ ⦃column m index line : Nat⦄ ⦃tail : List Char⦄ ⦃tokens ts opening : List Token⦄ ⦃indent : Int⦄
    ⦃indents indents' : List Int⦄, es ≠ [] → EntriesFit column es → 0 < column → m ≤ column →
    StartsLine m tail → EntersBlock .blockMappingStart column indent indents opening indents' →
    (∀ index line, (clear ⟨tail, index, line, m⟩ (tokens ++ opening ++ entryTokens es) column
      indents' true).Yields ts) →
    (clear ⟨writeEntries column true es ++ (List.replicate m ' ' ++ tail), index, line, column⟩
      tokens indent indents true).Yields ts

/-- What is read of the items of a list at a column. -/
def ReadsItems (vs : List Value) : Prop :=
  ∀ ⦃column m index line : Nat⦄ ⦃tail : List Char⦄ ⦃tokens ts opening : List Token⦄ ⦃indent : Int⦄
    ⦃indents indents' : List Int⦄, vs ≠ [] → ItemsFit column vs → m ≤ column →
    StartsLine m tail → EntersBlock .blockSequenceStart column indent indents opening indents' →
    (∀ index line, (clear ⟨tail, index, line, m⟩ (tokens ++ opening ++ itemTokens vs) column
      indents' true).Yields ts) →
    (clear ⟨writeItems column true vs ++ (List.replicate m ' ' ++ tail), index, line, column⟩
      tokens indent indents true).Yields ts

lemma readsValue_scalar (s : Scalar) : ReadsValue (.scalar s) := by
  intro indent m column column' index line tail tokens ts indents hs _ hm htail hcolumn hyields
  have htext : writeValue indent column' false (.scalar s) ++ (List.replicate m ' ' ++ tail) =
      ' ' :: (scalarText (indent + indentStep) (column' + 1) s ++
        '\n' :: (List.replicate m ' ' ++ tail)) := by
    simp [writeValue]
  rw [htext]
  rw [valueTokens] at hyields
  exact yields_scalar hs.1 hs.2 hcolumn hm htail _ hyields

lemma readsValue_emptyList : ReadsValue (.list []) := by
  intro indent m column column' index line tail tokens ts indents _ _ _ htail hcolumn hyields
  have htext : writeValue indent column' false (.list []) ++ (List.replicate m ' ' ++ tail) =
      ' ' :: '[' :: ']' :: '\n' :: (List.replicate m ' ' ++ tail) := by
    simp [writeValue]
  rw [htext]
  rw [valueTokens] at hyields
  exact yields_emptyList hcolumn htail.starts hyields

lemma keyText_of_keyWord {word : String} (h : KeyWord word) : keyText (.str word) = word.toList := by
  simp [keyText, Style.ofKey, h.style]

/-- What follows a colon is never part of the key. -/
lemma endsWord_writeValue (indent column : Nat) (v : Value) (rest : List Char) :
    endsWord (writeValue indent column false v ++ rest) = true := by
  match v with
  | .scalar s => rfl
  | .list [] => rfl
  | .list (_ :: _) => rfl
  | .map [] => rfl
  | .map (_ :: _) => rfl

lemma writeEntries_cons {k : Scalar} {word : String} (hk : k = .str word) (hword : KeyWord word)
    (v : Value) (es : List (Scalar × Value)) (column : Nat) (after : List Char) :
    ∃ column', writeEntries column true ((k, v) :: es) ++ after =
      word.toList ++ ':' :: (writeValue column column' false v ++
        (writeEntries column false es ++ after)) := by
  refine ⟨column + (keyText k).length + 1, ?_⟩
  simp [writeEntries, hk, keyText_of_keyWord hword]

lemma startsLine_entries {es : List (Scalar × Value)} {column : Nat} (hne : es ≠ [])
    (hes : EntriesFit column es) (hpos : 0 < column) (after : List Char) :
    StartsLine column (writeEntries column true es ++ after) := by
  obtain ⟨⟨k, v⟩, es, rfl⟩ := List.exists_cons_of_ne_nil hne
  obtain ⟨⟨word, hk, hword⟩, -⟩ := hes
  obtain ⟨column', htext⟩ := writeEntries_cons hk hword v es column after
  have hrest := plainRest_of_allowsPlain (ofText_eq_plain_iff.mp hword.style).2
  have hwhite := hrest.not_isWhite (fun _ hc => hc) fun c hc => (hword.solid c hc).1
  rw [htext]
  refine ⟨startsToken_word (ne_nil_of_ofText_eq_plain hword.style) (fun c hc => (hwhite c hc).1)
    hrest.noHash _, fun hzero => ?_⟩
  omega

lemma writeItems_cons {es : List (Scalar × Value)} (hne : es ≠ []) (vs : List Value) (column : Nat)
    (after : List Char) :
    writeItems column true (.map es :: vs) ++ after =
      '-' :: ' ' :: (writeEntries (column + indentStep) true es ++
        (writeItems column false vs ++ after)) := by
  obtain ⟨e, es, rfl⟩ := List.exists_cons_of_ne_nil hne
  simp [writeItems, writeValue]

lemma startsLine_items {vs : List Value} {column : Nat} (hne : vs ≠ []) (hvs : ItemsFit column vs)
    (after : List Char) : StartsLine column (writeItems column true vs ++ after) := by
  obtain ⟨v, vs, rfl⟩ := List.exists_cons_of_ne_nil hne
  obtain ⟨⟨es, rfl⟩, hes, -⟩ := hvs
  rw [writeItems_cons hes.1]
  refine ⟨?_, fun _ => ?_⟩
  · simp [StartsToken]
    decide
  · simp [atSeparator, Style.startsLikeSeparator]

/-- A mapping that stands deeper than the block around it ends where that block goes on. -/
lemma yields_mapping {es : List (Scalar × Value)} (hread : ReadsEntries es) (hne : es ≠ [])
    (hes : EntriesFit (indent + indentStep) es) (hm : m ≤ indent) (htail : StartsLine m tail)
    (hyields : ∀ index line, (clear ⟨tail, index, line, m⟩ (tokens ++ valueTokens (.map es)) indent
      indents true).Yields ts) :
    (clear ⟨writeEntries (indent + indentStep) true es ++ (List.replicate m ' ' ++ tail), index,
      line, indent + indentStep⟩ tokens indent indents true).Yields ts := by
  have hstep : indent < indent + indentStep := by
    unfold indentStep
    omega
  refine hread hne hes (by omega) (by omega) htail (.deeper (by omega)) fun index line => ?_
  refine yields_blockEnd htail.starts (by omega) ?_
  simpa [valueTokens] using hyields index line

lemma readsValue_map {es : List (Scalar × Value)} (hread : ReadsEntries es) :
    ReadsValue (.map es) := by
  intro indent m column column' index line tail tokens ts indents hes _ hm htail hcolumn hyields
  obtain ⟨hne, -, hes⟩ := hes
  have htext : writeValue indent column' false (.map es) ++ (List.replicate m ' ' ++ tail) =
      '\n' :: (List.replicate (indent + indentStep) ' ' ++
        (writeEntries (indent + indentStep) true es ++ (List.replicate m ' ' ++ tail))) := by
    obtain ⟨e, es, rfl⟩ := List.exists_cons_of_ne_nil hne
    simp [writeValue, writeEntries_inline]
  rw [htext]
  refine yields_newLine ?_ (yields_mapping hread hne hes hm htail hyields)
  exact (startsLine_entries hne hes (by unfold indentStep; omega) _).starts

lemma readsValue_list {v : Value} {vs : List Value} (hread : ReadsItems (v :: vs)) :
    ReadsValue (.list (v :: vs)) := by
  intro indent m column column' index line tail tokens ts indents hvs _ hm htail hcolumn hyields
  have htext : writeValue indent column' false (.list (v :: vs)) ++ (List.replicate m ' ' ++ tail) =
      '\n' :: (List.replicate indent ' ' ++
        (writeItems indent true (v :: vs) ++ (List.replicate m ' ' ++ tail))) := by
    simp [writeValue, writeItems_inline]
  rw [htext]
  refine yields_newLine ?_ (hread (List.cons_ne_nil _ _) hvs hm htail .here ?_)
  · exact (startsLine_items (List.cons_ne_nil _ _) hvs _).starts
  · simpa [valueTokens] using hyields

lemma readsEntries_cons {k : Scalar} {v : Value} {es : List (Scalar × Value)}
    (hvalue : ReadsValue v) (hmore : ReadsEntries es) : ReadsEntries ((k, v) :: es) := by
  intro column m index line tail tokens ts opening indent indents indents' _ hes hpos hm htail
    henters hyields
  obtain ⟨⟨word, hk, hword⟩, hv, hes⟩ := hes
  obtain ⟨column', htext⟩ :=
    writeEntries_cons hk hword v es column (List.replicate m ' ' ++ tail)
  have hkey : keyToken k = .plain word := by
    rw [keyToken, hk, keyText_of_keyWord hword, String.ofList_toList]
  rw [entryTokens, hkey] at hyields
  rw [htext]
  refine yields_key hword (endsWord_writeValue _ _ _ _) (by omega) henters
    fun index column'' hcolumn => ?_
  by_cases hne : es = []
  · subst hne
    refine hvalue hv hpos hm htail (by omega) fun index line => ?_
    simpa [entryTokens] using hyields index line
  · rw [writeEntries_inline column hne, List.append_assoc]
    refine hvalue hv hpos le_rfl (startsLine_entries hne hes hpos _) (by omega) fun index line => ?_
    refine hmore hne hes hpos hm htail .here fun index line => ?_
    simpa using hyields index line

lemma readsItems_cons {es : List (Scalar × Value)} {vs : List Value}
    (hitem : ReadsEntries es) (hmore : ReadsItems vs) : ReadsItems (.map es :: vs) := by
  intro column m index line tail tokens ts opening indent indents indents' _ hvs hm htail henters
    hyields
  obtain ⟨-, ⟨hne, -, hes⟩, hvs⟩ := hvs
  have hstarts := startsLine_entries hne hes (by unfold indentStep; omega)
    (writeItems column false vs ++ (List.replicate m ' ' ++ tail))
  rw [itemTokens] at hyields
  rw [writeItems_cons hne]
  refine yields_dash henters (yields_space hstarts.starts ?_)
  by_cases hnil : vs = []
  · subst hnil
    refine yields_mapping hitem hne hes hm htail fun index line => ?_
    simpa [itemTokens] using hyields index line
  · rw [writeItems_inline column hnil, List.append_assoc]
    refine yields_mapping hitem hne hes le_rfl (startsLine_items hnil hvs _) fun index line => ?_
    refine hmore hnil hvs hm htail .here fun index line => ?_
    simpa using hyields index line

mutual

/-- **A value under a key**, up to the start of the next line. -/
lemma readsValue : ∀ v : Value, ReadsValue v
  | .scalar s => readsValue_scalar s
  | .list [] => readsValue_emptyList
  | .list (v :: vs) => readsValue_list (readsItems (v :: vs))
  | .map es => readsValue_map (readsEntries es)

lemma readsEntries : ∀ es : List (Scalar × Value), ReadsEntries es
  | [] => fun _ _ _ _ _ _ _ _ _ _ _ hne => absurd rfl hne
  | (_, v) :: es => readsEntries_cons (readsValue v) (readsEntries es)

lemma readsItems : ∀ vs : List Value, ReadsItems vs
  | [] => fun _ _ _ _ _ _ _ _ _ _ _ hne => absurd rfl hne
  | .map es :: vs => readsItems_cons (readsEntries es) (readsItems vs)
  | .scalar _ :: _ => fun _ _ _ _ _ _ _ _ _ _ _ _ hvs => by obtain ⟨⟨es, hes⟩, -⟩ := hvs; cases hes
  | .list _ :: _ => fun _ _ _ _ _ _ _ _ _ _ _ _ hvs => by obtain ⟨⟨es, hes⟩, -⟩ := hvs; cases hes

end

end Scanner

end PrintSpec.Yaml
