import PrintSpec.Dump
import PrintSpec.Proofs.Dump.Values
import PrintSpec.Proofs.Json.Text

/-!
# JSON documents are read back

Every value that `Value.Kept` describes is written as a text that is read back as the same value, but
for halves of characters: a first half and the second half after it are joined to one character
(`rereadScalar`).  The proof follows the writer: a value, the items of a list and the entries of a
mapping each are read back from their text, whatever follows it, as long as what follows cannot go on
a number.  The reader bounds its nesting by the length of the text, and the text of a part is shorter
than the text of the whole.
-/

namespace PrintSpec.Json

open PrintSpec.Text

/-! ## What surrounds a value -/

/-- A text that cannot go on a value before it: it ends, or a comma or a line end comes. -/
def Closes (rest : List Char) : Prop :=
  ∀ c ∈ rest.head?, c = ',' ∨ c = '\n'

lemma closes_nil : Closes [] := by simp [Closes]

lemma closes_comma (rest : List Char) : Closes (',' :: rest) := by simp [Closes]

lemma closes_newLine (depth : Nat) (rest : List Char) : Closes (newLine depth ++ rest) := by
  simp [Closes, newLine]

/-- A text that begins with a part of a document: no blank and no closing bracket. -/
def Opens (cs : List Char) : Prop :=
  ∃ c rest, cs = c :: rest ∧ isSpace c = false ∧ c ≠ ']' ∧ c ≠ '}'

lemma Opens.append {cs : List Char} (h : Opens cs) (rest : List Char) : Opens (cs ++ rest) := by
  obtain ⟨c, cs, rfl, hc⟩ := h
  exact ⟨c, cs ++ rest, rfl, hc⟩

lemma Opens.skipSpace {cs : List Char} (h : Opens cs) : skipSpace cs = cs := by
  obtain ⟨c, cs, rfl, hc, -⟩ := h
  rw [Json.skipSpace, List.dropWhile_cons_of_neg (by simp [hc])]

lemma skipSpace_newLine (depth : Nat) (rest : List Char) :
    skipSpace (newLine depth ++ rest) = skipSpace rest := by
  have hnewLine : ∀ c ∈ newLine depth, isSpace c := by
    intro c hc
    rcases List.mem_cons.mp hc with rfl | hc
    · decide
    · rw [List.eq_of_mem_replicate hc]
      decide
  rw [skipSpace, List.dropWhile_append_of_pos hnewLine]
  rfl

lemma opens_quote (cs : List Char) : Opens ('"' :: cs) :=
  ⟨'"', cs, rfl, by decide⟩

/-! ## Numbers and words -/

lemma Closes.takeWhile_isDigit {rest : List Char} (h : Closes rest) {ds : List Char}
    (hds : ∀ d ∈ ds, d.isDigit) : (ds ++ rest).takeWhile Char.isDigit = ds := by
  rw [List.takeWhile_append_of_pos hds]
  cases rest with
  | nil => simp
  | cons c rest =>
    rcases h c rfl with rfl | rfl
    · simp
    · simp

lemma Closes.fractionOf {rest : List Char} (h : Closes rest) : fractionOf rest = [] := by
  cases rest with
  | nil => rfl
  | cons c rest => rcases h c rfl with rfl | rfl <;> rfl

lemma Closes.readExponent? {rest : List Char} (h : Closes rest) : readExponent? rest = none := by
  cases rest with
  | nil => rfl
  | cons c rest => rcases h c rfl with rfl | rfl <;> rfl

/-- A number within the limit is read back from its digits. -/
lemma readNumber_toDigits {n : Nat} (hn : n < 10 ^ Numeral.digitLimit) {rest : List Char}
    (hrest : Closes rest) :
    readNumber (Nat.toDigits 10 n ++ rest) = .ok (.int n, rest) := by
  have hdigits : ∀ d ∈ Nat.toDigits 10 n, d.isDigit :=
    fun d hd => Nat.isDigit_of_mem_toDigits (by decide) (by decide) hd
  have hread := Numeral.readDigits_toDigits hn
  have hwhole := hrest.takeWhile_isDigit hdigits
  obtain ⟨d, ds, hds, hd⟩ := Numeral.exists_toDigits_cons n
  have hminus : d ≠ '-' := ne_of_isDigit hd (by decide)
  by_cases hzero : d = '0'
  · obtain ⟨rfl, rfl⟩ := Numeral.toDigits_of_leading_zero (hzero ▸ hds)
    rw [hds, hzero] at hread ⊢
    simp [readNumber, hrest.fractionOf, hrest.readExponent?, hread]
  · rw [hds] at hread hwhole ⊢
    rw [List.cons_append] at hwhole ⊢
    simp [readNumber, hminus, hzero, hwhole, hrest.fractionOf, hrest.readExponent?, hread]

/-- A text that begins with a digit begins with none of the words. -/
lemma readAtom_of_isDigit {d : Char} (hd : d.isDigit) (cs : List Char) :
    readAtom (d :: cs) = (readNumber (d :: cs)).map fun (s, rest) => (.scalar s, rest) := by
  have hne : ∀ c : Char, c.isDigit = false → ¬(c = d) :=
    fun c hc => (ne_of_isDigit hd hc).symm
  have hwords : (words.findSome? fun w =>
      (afterWord? w.1 (d :: cs)).map fun rest => (w.2, rest)) = none := by
    simp [words, afterWord?, hne 'n' (by decide), hne 't' (by decide), hne 'f' (by decide),
      hne 'N' (by decide), hne 'I' (by decide), hne '-' (by decide)]
  rw [readAtom, hwords]

/-- A value of one character class that is neither a text nor a collection is read as an atom. -/
lemma readValue_atom {fuel : Nat} {c : Char} {cs : List Char} (hquote : c ≠ '"') (hlist : c ≠ '[')
    (hmap : c ≠ '{') : readValue (fuel + 1) (c :: cs) = readAtom (c :: cs) := by
  simp [readValue, hquote, hlist, hmap]

/-- A scalar as it is read back: a text has its pairs of halves joined. -/
def rereadScalar : Scalar → Scalar
  | .torn codes => .ofCodes (joinHalves codes)
  | other => other

/-- A scalar is read back, if what follows cannot go on a number. -/
lemma readValue_scalarText {s : Scalar} (hs : s.Kept) (fuel : Nat) {rest : List Char}
    (hrest : Closes rest) :
    readValue (fuel + 1) (scalarText s ++ rest) = .ok (.scalar (rereadScalar s), rest) := by
  cases s with
  | null => rfl
  | bool b => cases b <;> rfl
  | int n =>
    obtain ⟨n, hn, rfl⟩ := hs
    have hread := readNumber_toDigits hn hrest
    obtain ⟨d, ds, hds, hd⟩ := Numeral.exists_toDigits_cons n
    rw [hds, List.cons_append] at hread
    rw [scalarText, toList_toString_natCast, hds, List.cons_append,
      readValue_atom (ne_of_isDigit hd (by decide)) (ne_of_isDigit hd (by decide))
        (ne_of_isDigit hd (by decide)), readAtom_of_isDigit hd, hread]
    rfl
  | str s =>
    have hread := readString_stringText s rest
    simp [scalarText, stringText, readValue, hread, Except.map, rereadScalar]
  | torn codes =>
    have hread := readString_codes hs.2 rest
    simp [scalarText, codesText, readValue, hread, Except.map, rereadScalar]
  | double d => exact absurd hs not_false

lemma opens_of_isDigit {d : Char} (hd : d.isDigit) (ds : List Char) : Opens (d :: ds) := by
  refine ⟨d, ds, rfl, ?_, ne_of_isDigit hd (by decide), ne_of_isDigit hd (by decide)⟩
  simp [isSpace, ne_of_isDigit hd (c := ' ') (by decide), ne_of_isDigit hd (c := '\t') (by decide),
    ne_of_isDigit hd (c := '\n') (by decide), ne_of_isDigit hd (c := '\r') (by decide)]

lemma opens_valueText {v : Value} (hv : v.Kept) (depth : Nat) : Opens (valueText depth v) := by
  match v with
  | .scalar .null => exact ⟨'n', _, rfl, by decide⟩
  | .scalar (.bool true) => exact ⟨'t', _, rfl, by decide⟩
  | .scalar (.bool false) => exact ⟨'f', _, rfl, by decide⟩
  | .scalar (.int n) =>
    obtain ⟨n, -, rfl⟩ := hv
    obtain ⟨d, ds, hds, hd⟩ := Numeral.exists_toDigits_cons n
    rw [valueText, scalarText, toList_toString_natCast, hds]
    exact opens_of_isDigit hd ds
  | .scalar (.str s) | .scalar (.torn codes) => exact opens_quote _
  | .scalar (.double d) => exact absurd hv not_false
  | .list [] | .list (_ :: _) => exact ⟨'[', _, rfl, by decide⟩
  | .map [] | .map (_ :: _) => exact ⟨'{', _, rfl, by decide⟩

/-! ## Collections -/

/-- The items of a list begin, after a new line, with their first value. -/
lemma exists_itemsText_cons (depth : Nat) (v : Value) (vs : List Value) :
    ∃ more, itemsText depth (v :: vs) = newLine depth ++ (valueText depth v ++ more) := by
  cases vs with
  | nil => exact ⟨[], by simp [itemsText]⟩
  | cons w vs => exact ⟨_, by rw [itemsText, List.append_assoc]⟩

/-- A bracket before a part of a document opens a list that is not empty. -/
lemma readValue_list {fuel : Nat} {cs : List Char} (h : Opens (skipSpace cs)) :
    readValue (fuel + 1) ('[' :: cs) =
      (readItems fuel (skipSpace cs)).map fun (items, rest) => (.list items, rest) := by
  obtain ⟨c, rest, hcs, -, hc, -⟩ := h
  simp [readValue, hcs, hc]

lemma readValue_map {fuel : Nat} {cs : List Char} (h : Opens (skipSpace cs)) :
    readValue (fuel + 1) ('{' :: cs) =
      (readEntries fuel (skipSpace cs)).map fun (entries, rest) =>
        (Value.ofEntries entries, rest) := by
  obtain ⟨c, rest, hcs, -, -, hc⟩ := h
  simp [readValue, hcs, hc]

/-- The entries of a mapping begin, after a new line, with the quote of their first key. -/
lemma opens_entriesText {e : Scalar × Value} {es : List (Scalar × Value)}
    (h : Value.EntriesKept (e :: es)) (depth : Nat) (rest : List Char) :
    Opens (skipSpace (entriesText depth (e :: es) ++ rest)) := by
  obtain ⟨⟨s, hs⟩, -⟩ := h
  obtain ⟨more, hmore⟩ : ∃ more, entriesText depth (e :: es) = newLine depth ++ '"' :: more := by
    obtain ⟨k, v⟩ := e
    obtain rfl : k = .str s := hs
    cases es with
    | nil => exact ⟨_, by rw [entriesText, List.append_assoc]; rfl⟩
    | cons e es => exact ⟨_, by rw [entriesText, List.append_assoc, List.append_assoc]; rfl⟩
  rw [hmore, List.append_assoc, skipSpace_newLine, List.cons_append, (opens_quote _).skipSpace]
  exact opens_quote _

/-- After a comma, a colon or a bracket there is no blank to pass over. -/
lemma skipSpace_mark {c : Char} (hc : isSpace c = false) (rest : List Char) :
    skipSpace (c :: rest) = c :: rest := by
  rw [skipSpace, List.dropWhile_cons_of_neg (by simp [hc])]

lemma skipSpace_blank (rest : List Char) : skipSpace (' ' :: rest) = skipSpace rest := rfl

mutual

/-- A value is read back from its text. -/
lemma readValue_valueText : ∀ {v : Value}, v.Kept → ∀ (depth : Nat) (fuel : Nat)
    {rest : List Char}, (valueText depth v).length < fuel → Closes rest →
      readValue fuel (valueText depth v ++ rest) = .ok (v.reread rereadScalar, rest)
  | v, _, _, 0, _, hfuel, _ => absurd hfuel (Nat.not_lt_zero _)
  | .scalar s, hv, _, fuel + 1, _, _, hrest => readValue_scalarText hv fuel hrest
  | .list [], _, _, _ + 1, _, _, _ => rfl
  | .map [], _, _, _ + 1, _, _, _ => rfl
  | .list (v :: vs), hv, depth, fuel + 1, rest, hfuel, _ => by
    have hfuel' : (itemsText (depth + 1) (v :: vs)).length < fuel := by
      simp [valueText] at hfuel
      omega
    have hread := readItems_itemsText hv (depth + 1) depth fuel rest hfuel'
    obtain ⟨more, hmore⟩ := exists_itemsText_cons (depth + 1) v vs
    have hopens : Opens (skipSpace
        (itemsText (depth + 1) (v :: vs) ++ (newLine depth ++ ']' :: rest))) := by
      rw [hmore, List.append_assoc, skipSpace_newLine, List.append_assoc]
      have hvalue := (opens_valueText hv.1 (depth + 1)).append (more ++ (newLine depth ++ ']' :: rest))
      rwa [hvalue.skipSpace]
    have htext : valueText depth (.list (v :: vs)) ++ rest =
        '[' :: (itemsText (depth + 1) (v :: vs) ++ (newLine depth ++ ']' :: rest)) := by
      simp [valueText]
    rw [htext, readValue_list hopens, hread]
    rfl
  | .map (e :: es), hv, depth, fuel + 1, rest, hfuel, _ => by
    have hfuel' : (entriesText (depth + 1) (e :: es)).length < fuel := by
      simp [valueText] at hfuel
      omega
    have hread := readEntries_entriesText hv.2 (depth + 1) depth fuel rest hfuel'
    have htext : valueText depth (.map (e :: es)) ++ rest =
        '{' :: (entriesText (depth + 1) (e :: es) ++ (newLine depth ++ '}' :: rest)) := by
      simp [valueText]
    rw [htext, readValue_map (opens_entriesText hv.2 (depth + 1) _), hread]
    have hkeys : ∀ entry ∈ e :: es, ∃ s, entry.1 = .str s := fun entry hentry =>
      (Value.entriesKept_iff.mp hv.2 entry hentry).1
    simp [Except.map, Value.ofEntries_rereadEntries rereadScalar hv.1 hkeys, Value.reread]
termination_by structural _ _ _ fuel _ _ _ => fuel

/-- The items of a list are read back up to the closing bracket. -/
lemma readItems_itemsText : ∀ {v : Value} {vs : List Value}, Value.AllKept (v :: vs) →
    ∀ (depth outer : Nat) (fuel : Nat) (rest : List Char),
      (itemsText depth (v :: vs)).length < fuel →
      readItems fuel (skipSpace (itemsText depth (v :: vs) ++ (newLine outer ++ ']' :: rest))) =
        .ok (Value.rereadItems rereadScalar (v :: vs), rest)
  | v, _, _, _, _, 0, _, hfuel => absurd hfuel (Nat.not_lt_zero _)
  | v, [], hvs, depth, outer, fuel + 1, rest, hfuel => by
    have hfuel' : (valueText depth v).length < fuel := by
      simp [itemsText, newLine] at hfuel
      omega
    have hvalue := readValue_valueText hvs.1 depth fuel hfuel' (closes_newLine outer (']' :: rest))
    have hopens := (opens_valueText hvs.1 depth).append (newLine outer ++ ']' :: rest)
    rw [itemsText, List.append_assoc, skipSpace_newLine, hopens.skipSpace, readItems, hvalue]
    simp [bind, Except.bind, pure, Except.pure, skipSpace_newLine, skipSpace_mark (c := ']') rfl,
      Value.rereadItems]
  | v, w :: vs, hvs, depth, outer, fuel + 1, rest, hfuel => by
    rw [itemsText] at hfuel
    simp only [List.length_append, List.length_cons, newLine] at hfuel
    have hvalue := readValue_valueText hvs.1 depth fuel (by omega)
      (closes_comma (itemsText depth (w :: vs) ++ (newLine outer ++ ']' :: rest)))
    have hmore := readItems_itemsText hvs.2 depth outer fuel rest (by omega)
    have hopens := (opens_valueText hvs.1 depth).append
      (',' :: (itemsText depth (w :: vs) ++ (newLine outer ++ ']' :: rest)))
    rw [itemsText, List.append_assoc, List.append_assoc, skipSpace_newLine, List.cons_append,
      hopens.skipSpace, readItems, hvalue]
    simp [bind, Except.bind, pure, Except.pure, skipSpace_mark (c := ',') rfl, hmore,
      Value.rereadItems]
termination_by structural _ _ _ _ _ fuel _ _ => fuel

/-- The entries of a mapping are read back up to the closing brace. -/
lemma readEntries_entriesText : ∀ {e : Scalar × Value} {es : List (Scalar × Value)},
    Value.EntriesKept (e :: es) → ∀ (depth outer : Nat) (fuel : Nat) (rest : List Char),
      (entriesText depth (e :: es)).length < fuel →
      readEntries fuel
          (skipSpace (entriesText depth (e :: es) ++ (newLine outer ++ '}' :: rest))) =
        .ok (Value.rereadEntries rereadScalar (e :: es), rest)
  | _, _, _, _, _, 0, _, hfuel => absurd hfuel (Nat.not_lt_zero _)
  | (k, v), [], ⟨⟨key, hkey⟩, hv, _⟩, depth, outer, fuel + 1, rest, hfuel => by
    obtain rfl : k = .str key := hkey
    rw [entriesText] at hfuel
    simp only [List.length_append, List.length_cons, newLine] at hfuel
    have hvalue := readValue_valueText hv depth fuel (by omega)
      (closes_newLine outer ('}' :: rest))
    have hopens := (opens_valueText hv depth).append (newLine outer ++ '}' :: rest)
    have hstring := readString_stringText key
      (':' :: ' ' :: (valueText depth v ++ (newLine outer ++ '}' :: rest)))
    have htext : entriesText depth [(.str key, v)] ++ (newLine outer ++ '}' :: rest) =
        newLine depth ++ '"' :: (key.toList.flatMap charText ++ '"' :: ':' :: ' ' ::
          (valueText depth v ++ (newLine outer ++ '}' :: rest))) := by
      simp [entriesText, keyText, stringText]
    rw [htext, skipSpace_newLine, (opens_quote _).skipSpace, readEntries]
    simp [bind, Except.bind, pure, Except.pure, hstring, skipSpace_mark (c := ':') rfl,
      skipSpace_blank, hopens.skipSpace, hvalue, skipSpace_newLine, skipSpace_mark (c := '}') rfl,
      Value.rereadEntries]
  | (k, v), e :: es, ⟨⟨key, hkey⟩, hv, hes⟩, depth, outer, fuel + 1, rest, hfuel => by
    obtain rfl : k = .str key := hkey
    rw [entriesText] at hfuel
    simp only [List.length_append, List.length_cons, newLine] at hfuel
    have hvalue := readValue_valueText hv depth fuel (by omega)
      (closes_comma (entriesText depth (e :: es) ++ (newLine outer ++ '}' :: rest)))
    have hmore := readEntries_entriesText hes depth outer fuel rest (by omega)
    have hopens := (opens_valueText hv depth).append
      (',' :: (entriesText depth (e :: es) ++ (newLine outer ++ '}' :: rest)))
    have hstring := readString_stringText key (':' :: ' ' :: (valueText depth v ++
      ',' :: (entriesText depth (e :: es) ++ (newLine outer ++ '}' :: rest))))
    have htext : entriesText depth ((.str key, v) :: e :: es) ++ (newLine outer ++ '}' :: rest) =
        newLine depth ++ '"' :: (key.toList.flatMap charText ++ '"' :: ':' :: ' ' ::
          (valueText depth v ++
            ',' :: (entriesText depth (e :: es) ++ (newLine outer ++ '}' :: rest)))) := by
      simp [entriesText, keyText, stringText]
    rw [htext, skipSpace_newLine, (opens_quote _).skipSpace, readEntries]
    simp [bind, Except.bind, pure, Except.pure, hstring, skipSpace_mark (c := ':') rfl,
      skipSpace_blank, hopens.skipSpace, hvalue, skipSpace_mark (c := ',') rfl, hmore,
      Value.rereadEntries]
termination_by structural _ _ _ _ _ fuel _ _ => fuel

end

/-- **A document is read back**, with its pairs of halves joined. -/
lemma parse_render {v : Value} (h : v.Kept) :
    parse (render v) = .ok (v.reread rereadScalar) := by
  have hread := readValue_valueText h 0 ((valueText 0 v).length + 1) (by omega) closes_nil
  have hskip := (opens_valueText h 0).skipSpace
  rw [List.append_nil] at hread
  rw [parse, render, String.toList_ofList, hskip, hread]
  rfl

/-! ## Texts that come back -/

/-- A text is read back with its pairs of halves joined. -/
lemma rereadScalar_ofCodes (codes : List Nat) :
    rereadScalar (.ofCodes codes) = .ofCodes (joinHalves codes) := by
  cases hchars : charsOf? codes with
  | none => simp only [Scalar.ofCodes, hchars, rereadScalar]
  | some cs =>
    -- a whole text has no pairs
    obtain rfl : codes = Text.codes (String.ofList cs) := by
      rw [Text.codes, String.toList_ofList, charsOf?_eq_some_iff.mp hchars]
    rw [joinHalves_eq_self_iff.mpr (unpaired_codes _), ofCodes_codes, rereadScalar]
    exact fun codes hcodes => by cases hcodes

/-- **The texts that come back as they were are those without pairs of halves.** -/
lemma reread_eq_self_iff {v : Value} (h : v.IsText) :
    v.reread rereadScalar = v ↔ v.IsUnpaired := by
  obtain ⟨codes, hcodes, rfl⟩ := h
  rw [Value.reread, Value.scalar.injEq, rereadScalar_ofCodes, ofCodes_injective.eq_iff,
    joinHalves_eq_self_iff]
  constructor
  · exact fun hunpaired => ⟨codes, hcodes, hunpaired, rfl⟩
  · rintro ⟨codes', -, hunpaired, heq⟩
    rwa [ofCodes_injective (Value.scalar.inj heq)]

lemma rereadsTexts_rereadScalar : RereadsTexts rereadScalar where
  null := rfl
  bool _ := rfl
  int _ := rfl
  kind _ := rfl
  eq_null s h := by
    cases s with
    | null => rfl
    | torn codes =>
      rw [rereadScalar, Scalar.ofCodes] at h
      split at h <;> cases h
    | _ => cases h

end PrintSpec.Json

namespace PrintSpec

open Json

/-- Storable groups are loaded from their dump, with their pairs of halves joined. -/
lemma load_render_json {groups : List RecordGroup} (h : ∀ g ∈ groups, g.Storable Value.IsText) :
    Dump.load .json (Dump.render .json groups) =
      .ok (groups.map (RecordGroup.reread rereadScalar)) := by
  refine load_of_parse rereadsTexts_rereadScalar h ?_
  rw [Dump.parse, Dump.render, Json.parse_render (kept_document h), Value.reread]

lemma Record.Storable.reread_eq_self_iff {r : Record} (h : r.Storable Value.IsText) :
    r.reread rereadScalar = r ↔ r.Storable Value.IsUnpaired := by
  have hparts : r.reread rereadScalar = r ↔
      r.raw.reread rereadScalar = r.raw ∧ r.text.reread rereadScalar = r.text := by
    obtain ⟨kind, raw, text, number, first, last⟩ := r
    simp [Record.reread]
  have htext : r.text.reread rereadScalar = r.text ↔ r.text = .null ∨ r.text.IsUnpaired := by
    rcases h.text with hnull | htext
    · exact iff_of_true (by rw [hnull]; rfl) (.inl hnull)
    · rw [Json.reread_eq_self_iff htext, or_iff_right htext.ne_null]
  rw [hparts, Json.reread_eq_self_iff h.raw, htext]
  exact ⟨fun hunpaired => { h with raw := hunpaired.1, text := hunpaired.2 },
    fun hstorable => ⟨hstorable.raw, hstorable.text⟩⟩

lemma RecordGroup.Storable.reread_eq_self_iff {g : RecordGroup} (h : g.Storable Value.IsText) :
    g.reread rereadScalar = g ↔ g.Storable Value.IsUnpaired := by
  have hparts : g.reread rereadScalar = g ↔ g.argument.reread rereadScalar = g.argument ∧
      ∀ r ∈ g.tokens, r.reread rereadScalar = r := by
    obtain ⟨argument, tokens⟩ := g
    rw [RecordGroup.reread, RecordGroup.mk.injEq, map_eq_self_iff]
  rw [hparts, Json.reread_eq_self_iff h.argument]
  constructor
  · rintro ⟨hargument, htokens⟩
    exact ⟨hargument, fun r hr => (h.tokens r hr).reread_eq_self_iff.mp (htokens r hr)⟩
  · intro hstorable
    exact ⟨hstorable.argument,
      fun r hr => (h.tokens r hr).reread_eq_self_iff.mpr (hstorable.tokens r hr)⟩

/-- Storable groups come back unchanged exactly if no text of theirs holds a pair of halves. -/
lemma load_render_json_eq_iff {groups : List RecordGroup}
    (h : ∀ g ∈ groups, g.Storable Value.IsText) :
    Dump.load .json (Dump.render .json groups) = .ok groups ↔
      ∀ g ∈ groups, g.Storable Value.IsUnpaired := by
  rw [load_render_json h, Except.ok.injEq, map_eq_self_iff]
  exact forall₂_congr fun g hg => (h g hg).reread_eq_self_iff

lemma Group.unpaired_of_ofArguments {args : List String} {groups : List Group}
    (h : Group.ofArguments args = .ok groups) :
    ∀ g ∈ groups.map Group.toRecord, g.Storable Value.IsUnpaired :=
  fun g hg => (Group.storable_of_ofArguments h g hg).mono fun _ => Value.IsWhole.isUnpaired

lemma Group.load_render_json {args : List String} {groups : List Group}
    (h : Group.ofArguments args = .ok groups) :
    Dump.load .json (Dump.render .json (groups.map Group.toRecord)) =
      .ok (groups.map Group.toRecord) := by
  have hunpaired := Group.unpaired_of_ofArguments h
  exact (load_render_json_eq_iff fun g hg =>
    (hunpaired g hg).mono fun _ => Value.IsUnpaired.isText).mpr hunpaired

/-- **JSON dumps load back, but for pairs of halves.**  All groups with values of the right types are
loaded from their dump, with every first half of a character joined to a second half directly after
it.  They come back unchanged exactly if no text of theirs holds such a pair, and so the tokens of all
arguments do. -/
theorem json_dump_loads_back_iff :
    (∀ groups : List RecordGroup, (∀ g ∈ groups, g.Storable Value.IsText) →
      Dump.load .json (Dump.render .json groups) =
        .ok (groups.map (RecordGroup.reread rereadScalar)) ∧
      (Dump.load .json (Dump.render .json groups) = .ok groups ↔
        ∀ g ∈ groups, g.Storable Value.IsUnpaired)) ∧
    ∀ (args : List String) (groups : List Group), Group.ofArguments args = .ok groups →
      (∀ g ∈ groups.map Group.toRecord, g.Storable Value.IsUnpaired) ∧
        Dump.load .json (Dump.render .json (groups.map Group.toRecord)) =
          .ok (groups.map Group.toRecord) := by
  refine ⟨fun groups h => ⟨load_render_json h, load_render_json_eq_iff h⟩, fun args groups h => ?_⟩
  exact ⟨Group.unpaired_of_ofArguments h, Group.load_render_json h⟩

/-- The group of one argument that is a single plain token. -/
def RecordGroup.ofPlain (text : Scalar) : RecordGroup :=
  ⟨.scalar text, [{ kind := .plainText, raw := .scalar text, text := .scalar text }]⟩

lemma RecordGroup.storable_ofPlain {T : Value → Prop} {text : Scalar} (h : T (.scalar text)) :
    (RecordGroup.ofPlain text).Storable T := by
  refine ⟨h, ?_⟩
  simp only [RecordGroup.ofPlain, List.mem_singleton, forall_eq]
  exact ⟨h, .inr h, .inl rfl, by simp, by simp, fun _ => ⟨rfl, rfl⟩⟩

/-- A range with one end left open, texts with escapes and with a character of two units, and an
argument without tokens; and a text that no argument gives, with a second half before a first one. -/
theorem json_dump_loads_back_range_and_halves :
    (∃ groups, Group.ofArguments ["%\x7b-2:\x7d", "\"\n\x00é𝄞", ""] = .ok groups ∧
      Dump.load .json (Dump.render .json (groups.map Group.toRecord)) =
        .ok (groups.map Group.toRecord)) ∧
    Dump.load .json (Dump.render .json [.ofPlain (.torn [0xDC00, 0xD800])]) =
      .ok [.ofPlain (.torn [0xDC00, 0xD800])] := by
  constructor
  · obtain ⟨groups, hgroups⟩ : ∃ groups,
        Group.ofArguments ["%\x7b-2:\x7d", "\"\n\x00é𝄞", ""] = .ok groups := ⟨_, by cbv⟩
    exact ⟨groups, hgroups, (json_dump_loads_back_iff.2 _ groups hgroups).2⟩
  · have hunpaired : Value.IsUnpaired (.scalar (.torn [0xDC00, 0xD800])) :=
      ⟨[0xDC00, 0xD800], by decide, by simp [Text.Unpaired, Text.isHighHalf], rfl⟩
    refine ((json_dump_loads_back_iff.1 _ ?_).2).mpr ?_
    all_goals simp only [List.mem_singleton, forall_eq]
    · exact RecordGroup.storable_ofPlain hunpaired.isText
    · exact RecordGroup.storable_ofPlain hunpaired

/-- A first half directly before a second one comes back as the character that they make. -/
theorem json_dump_joins_halves :
    (RecordGroup.ofPlain (.torn [0xD800, 0xDC00])).Storable Value.IsText ∧
    Dump.load .json (Dump.render .json [.ofPlain (.torn [0xD800, 0xDC00])]) =
      .ok [.ofPlain (.str "𐀀")] ∧
    Dump.load .json (Dump.render .json [.ofPlain (.torn [0xD800, 0xDC00])]) ≠
      .ok [.ofPlain (.torn [0xD800, 0xDC00])] := by
  have htext : Value.IsText (.scalar (.torn [0xD800, 0xDC00])) :=
    ⟨[0xD800, 0xDC00], by decide, rfl⟩
  have hstorable := RecordGroup.storable_ofPlain htext
  have hload := @load_render_json [.ofPlain (.torn [0xD800, 0xDC00])] (by simpa using hstorable)
  have hjoined : rereadScalar (.torn [0xD800, 0xDC00]) = .str "𐀀" := by decide
  simp only [List.map_cons, List.map_nil, RecordGroup.ofPlain, RecordGroup.reread, Record.reread,
    Value.reread, hjoined] at hload
  refine ⟨hstorable, hload, ?_⟩
  simp only [RecordGroup.ofPlain, hload]
  simp

end PrintSpec
