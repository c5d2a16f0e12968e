import PrintSpec.Dump
import PrintSpec.Proofs.Decomposition
import PrintSpec.Proofs.Yaml.Legal
import PrintSpec.Proofs.Yaml.Tree

/-!
# YAML dumps load back

A written document is cut into its tokens (`Yaml.tokensOf_render`), these form its tree
(`Yaml.nodeOf_render`), and the tree stands for its values (`Yaml.parse_render`).  So a dump of
storable groups is always loaded, and they come back with the same kinds, numbers and range ends:
`load_render_yaml`.

Texts come back too, with one exception.  A next-line control (U+0085) between single quotes is
written as it is and read as a line feed, so a text that holds one survives only in double quotes:
`Yaml.rereadScalar_str_iff`.
-/

namespace PrintSpec.Yaml

open Scanner

/-! ## Documents -/

lemma startsLine_nil : StartsLine 0 [] := ⟨by simp [StartsToken], fun _ => rfl⟩

/-- The end of the text ends the list that is the document. -/
lemma yields_end (tokens : List Token) (index line : Nat) :
    (clear ⟨[], index, line, 0⟩ tokens 0 [-1] true).Yields (tokens ++ [.blockEnd]) := by
  refine ⟨1, le_rfl, ?_⟩
  rw [scan, advance_clear startsLine_nil.starts, atEnd_clear startsLine_nil.starts]
  rfl

/-- The tokens of a document. -/
lemma tokensOf_render {items : List Value} (hne : items ≠ []) (hfit : ItemsFit 0 items)
    (hkept : Value.AllKept items) :
    tokensOf (render items) = .ok (.blockSequenceStart :: (itemTokens items ++ [.blockEnd])) := by
  obtain ⟨v, vs, rfl⟩ := List.exists_cons_of_ne_nil hne
  have htext : (render (v :: vs)).toList = writeItems 0 true (v :: vs) := by
    rw [render, String.toList_ofList, writeItems_inline 0 hne]
    · rfl
    · simp
  have hlegal : (writeItems 0 true (v :: vs)).all isLegal = true :=
    List.all_eq_true.mpr (legal_writeItems hkept 0 true)
  have hstart : (Cursor.peek { rest := writeItems 0 true (v :: vs) }) ≠ some '\ufeff' := by
    simp [writeItems, Cursor.peek]
  have hyields := @readsItems (v :: vs) 0 0 0 0 [] []
    ([.blockSequenceStart] ++ itemTokens (v :: vs) ++ [.blockEnd]) _ _ _ _ hne hfit le_rfl
    startsLine_nil (.deeper (by decide : (-1 : Int) < (0 : Nat))) fun index line => yields_end _ _ _
  rw [List.replicate_zero, List.append_nil, List.append_nil] at hyields
  obtain ⟨fuel, hfuel, hscan⟩ := hyields
  rw [tokensOf, htext, if_pos hlegal, if_neg hstart]
  exact scan_mono hscan hfuel

lemma nodeOf_render {items : List Value} (hne : items ≠ []) (hfit : ItemsFit 0 items)
    (hkept : Value.AllKept items) :
    nodeOf (render items) = .ok (some (.sequence (itemNodes items))) := by
  have hread : ∀ fuel, 3 * (itemTokens items).length + 2 ≤ fuel →
      Node.read true false fuel (.blockSequenceStart :: (itemTokens items ++ [.blockEnd])) =
        .ok (.sequence (itemNodes items), []) := by
    intro fuel hfuel
    obtain ⟨fuel, rfl⟩ := Nat.exists_eq_succ_of_ne_zero (by omega : fuel ≠ 0)
    rw [Node.read, if_pos rfl, (@treeOfItems items 0 fuel [] hfit (by omega)).1]
    rfl
  have hroot : Node.ofTokens (.blockSequenceStart :: (itemTokens items ++ [.blockEnd])) =
      .ok (some (.sequence (itemNodes items))) := by
    have hfirst : ((Token.blockSequenceStart :: (itemTokens items ++ [.blockEnd])).head? ==
        some .documentStart) = false := rfl
    have hbody := hread (3 * (Token.blockSequenceStart :: (itemTokens items ++ [.blockEnd])).length +
      3) (by simp only [List.length_cons, List.length_append]; omega)
    rw [Node.ofTokens, hfirst]
    simp only [Bool.not_false, Bool.true_and, List.isEmpty_cons, Bool.false_and, Bool.false_eq_true,
      if_false, hbody, bind, Except.bind, pure, Except.pure, List.dropWhile_nil]
  rw [nodeOf, tokensOf_render hne hfit hkept]
  simp only [hroot, Except.mapError]

lemma parse_emptyList : parse (render []) = .ok (.list []) := by
  have htokens : tokensOf (render []) = .ok [.flowSequenceStart, .flowSequenceEnd] := by decide
  rw [parse, nodeOf, htokens]
  rfl

/-- **What is read of a written document.** -/
lemma parse_render {items : List Value} (hfit : ItemsFit 0 items) (hkept : Value.AllKept items) :
    parse (render items) = .ok (.list (Value.rereadItems rereadScalar items)) := by
  by_cases hne : items = []
  · rw [hne, parse_emptyList, Value.rereadItems]
  · have hnode := nodeOf_render hne hfit hkept
    have hvalues := itemValues_itemNodes hfit 1
    rw [parse, hnode]
    simp only [Node.toValue, Nat.zero_add, hvalues, Except.map, Except.mapError]

/-! ## Texts -/

lemma not_mem_of_allowsPlain {cs : List Char} (h : Style.allowsPlain cs = true) : '\x85' ∉ cs := by
  intro hmem
  have hshow := ((plainRest_of_allowsPlain h).showable _ hmem).2
  revert hshow
  decide

/-- A text that is written between double quotes if it holds a next-line control. -/
def Survives (text : String) : Prop :=
  '\x85' ∈ text.toList → Style.ofText text = .doubleQuoted

/-- **The texts that survive are those that are read back as they were.** -/
lemma rereadScalar_str_iff (text : String) :
    rereadScalar (.str text) = .str text ↔ Survives text := by
  have hsame : ∀ cs, Scalar.str (String.ofList cs) = .str text ↔ cs = text.toList := by
    intro cs
    rw [Scalar.str.injEq, ← String.toList_inj, String.toList_ofList]
  rw [rereadScalar, hsame, Survives]
  cases hstyle : Style.ofText text with
  | plain =>
    have hnot := not_mem_of_allowsPlain (ofText_eq_plain_iff.mp hstyle).2
    simp [Style.reread, hnot]
  | singleQuoted => simpa using reread_single_iff (allowsSingle_of_ofText hstyle)
  | doubleQuoted => simp [Style.reread]

end PrintSpec.Yaml

namespace PrintSpec

open Yaml

/-! ## Records -/

lemma keyWord_of_mem {word : String} (h : word ∈ ["argument", "tokens", "kind", "raw", "text",
    "number", "start", "end", "value", "from_end"]) : KeyWord word := by
  simp only [List.mem_cons, List.not_mem_nil, or_false] at h
  rcases h with rfl | rfl | rfl | rfl | rfl | rfl | rfl | rfl | rfl | rfl
  all_goals exact ⟨by decide, List.all_iff_forall_prop.mp (by decide), by decide⟩

lemma Kind.ofText_name (k : Kind) : Style.ofText k.name = .plain := by
  cases k <;> decide

/-- The scalars of a dump stand far enough to the left. -/
lemma fits_scalar (s : Scalar) (h : IsWhole s) {indent : Nat} (hindent : indent ≤ 6) :
    Fits indent (.scalar s) := by
  refine ⟨h, ?_⟩
  unfold indentStep lineWidth
  omega

lemma Value.IsWhole.fits {v : Value} (h : v.IsWhole) {indent : Nat} (hindent : indent ≤ 6) :
    Fits indent v := by
  obtain ⟨s, rfl⟩ := h
  exact fits_scalar (.str s) ⟨trivial, by simp⟩ hindent

lemma Value.IsNatural.fits {v : Value} (h : v.IsNatural) {indent : Nat} (hindent : indent ≤ 6) :
    Fits indent v := by
  obtain ⟨n, hn, rfl⟩ := h
  exact fits_scalar (.int n) ⟨⟨n, hn, rfl⟩, by simp⟩ hindent

lemma fits_null {indent : Nat} (hindent : indent ≤ 6) : Fits indent .null :=
  fits_scalar .null ⟨trivial, by simp⟩ hindent

lemma fits_boundValue {bound : Option BoundRecord} (h : ∀ b ∈ bound, b.Storable) :
    Fits 4 (boundValue bound) := by
  cases bound with
  | none => exact fits_null (by decide)
  | some b =>
    obtain ⟨hvalue, flag, hflag⟩ := h b rfl
    refine ⟨by simp, by simp, ⟨_, rfl, keyWord_of_mem (by simp)⟩, hvalue.fits le_rfl,
      ⟨_, rfl, keyWord_of_mem (by simp)⟩, ?_, trivial⟩
    rw [hflag]
    exact fits_scalar (.bool flag) ⟨trivial, by simp⟩ le_rfl

lemma entriesFit_optionalEntry {indent : Nat} {key : String} (hkey : KeyWord key) {v : Value}
    (h : Fits indent v) : EntriesFit indent (optionalEntry key v) := by
  unfold optionalEntry
  split
  · trivial
  · exact ⟨⟨key, rfl, hkey⟩, h, trivial⟩

lemma Record.Storable.fits {r : Record} (h : r.Storable Value.IsWhole) : Fits 2 r.toValue := by
  have htext : Fits 4 r.text := by
    rcases h.text with hnull | htext
    · exact hnull ▸ fits_null (by decide)
    · exact htext.fits (by decide)
  have hnumber : Fits 4 r.number := by
    rcases h.number with hnull | hnumber
    · exact hnull ▸ fits_null (by decide)
    · exact hnumber.fits (by decide)
  have hkind : EntriesFit 4 [(.str "kind", .str r.kind.name), (.str "raw", r.raw)] :=
    ⟨⟨_, rfl, keyWord_of_mem (by simp)⟩, fits_scalar (.str _) ⟨trivial, by simp⟩ (by decide),
      ⟨_, rfl, keyWord_of_mem (by simp)⟩, h.raw.fits (by decide), trivial⟩
  have htext' := @entriesFit_optionalEntry 4 "text" (keyWord_of_mem (by simp)) r.text htext
  have hnumber' := @entriesFit_optionalEntry 4 "number" (keyWord_of_mem (by simp)) r.number hnumber
  have hends : EntriesFit 4 (if r.kind = .rangeField then
      [(Scalar.str "start", boundValue r.first), (.str "end", boundValue r.last)] else []) := by
    split
    · exact ⟨⟨_, rfl, keyWord_of_mem (by simp)⟩, fits_boundValue h.first,
        ⟨_, rfl, keyWord_of_mem (by simp)⟩, fits_boundValue h.last, trivial⟩
    · trivial
  refine ⟨by simp, (h.mono fun _ => Value.IsWhole.isText).kept.1, ?_⟩
  rw [entriesFit_iff] at *
  simp only [List.mem_append]
  rintro e (((he | he) | he) | he)
  · exact hkind e he
  · exact htext' e he
  · exact hnumber' e he
  · exact hends e he

lemma RecordGroup.Storable.fits {g : RecordGroup} (h : g.Storable Value.IsWhole) :
    Fits 0 g.toValue := by
  refine ⟨by simp, by simp, ⟨_, rfl, keyWord_of_mem (by simp)⟩, h.argument.fits (by decide),
    ⟨_, rfl, keyWord_of_mem (by simp)⟩, ?_, trivial⟩
  rw [Fits, itemsFit_iff]
  intro v hv
  obtain ⟨r, hr, rfl⟩ := List.mem_map.mp hv
  exact ⟨⟨_, rfl⟩, (h.tokens r hr).fits⟩

/-! ## Records are read back -/

lemma rereadsTexts_rereadScalar : RereadsTexts rereadScalar where
  null := rfl
  bool _ := rfl
  int _ := rfl
  kind k := by simp [rereadScalar, k.ofText_name, Style.reread]
  eq_null s h := by
    cases s with
    | null => rfl
    | _ => cases h

/-- Storable groups are loaded from their dump, with their texts as these are read back. -/
lemma load_render_yaml {groups : List RecordGroup} (h : ∀ g ∈ groups, g.Storable Value.IsWhole) :
    Dump.load .yaml (Dump.render .yaml groups) =
      .ok (groups.map (RecordGroup.reread rereadScalar)) := by
  have hfit : ItemsFit 0 (groups.map RecordGroup.toValue) := by
    rw [itemsFit_iff]
    intro v hv
    obtain ⟨g, hg, rfl⟩ := List.mem_map.mp hv
    exact ⟨⟨_, rfl⟩, (h g hg).fits⟩
  have hkept := kept_document fun g hg => (h g hg).mono fun _ => Value.IsWhole.isText
  refine load_of_parse rereadsTexts_rereadScalar h ?_
  rw [Dump.parse, Dump.render, Yaml.parse_render hfit hkept]

/-! ## Texts of tokens -/

/-- The texts in the record of a token. -/
def Token.texts (t : Token) : List String :=
  t.raw :: t.body.text?.toList

/-- The texts in the records of an argument. -/
def Group.texts (g : Group) : List String :=
  g.argument :: g.tokens.flatMap Token.texts

lemma Matcher.Accepts.subset {m : Matcher} {text payload : List Char} (h : m.Accepts text payload) :
    payload ⊆ text := by
  cases m with
  | escapedAt | escapedPercent =>
    obtain ⟨rfl, rfl⟩ := h
    simp
  | literalNumber | explicitField | implicitField =>
    rw [h.1]
    exact List.subset_append_right _ _
  | literalBlock | bracedField =>
    obtain ⟨rfl, -⟩ := h
    intro c hc
    simp [hc]

/-- The literal text of a token is what its pattern found. -/
lemma Matcher.text?_of_body {m : Matcher} {payload : List Char} {b : Body}
    (h : m.body payload = .ok b) : ∀ text ∈ b.text?, text = String.ofList payload := by
  have hfield : ∀ {b : Body}, fieldBody payload = .ok b → b.text? = none := by
    intro b h
    obtain ⟨-, n, -, rfl | rfl⟩ := fieldBody_cases h
    · rfl
    · rfl
  cases m with
  | escapedAt | escapedPercent | literalNumber | literalBlock =>
    cases h
    simp [Body.text?]
  | explicitField | implicitField => simp [hfield h]
  | bracedField =>
    rcases bracedBody_cases h with h | rfl | ⟨first, last, a, c, -, -, -, rfl⟩
    · simp [hfield h]
    · simp [Body.text?]
    · simp [Body.text?]

lemma Token.Placed.texts_subset {cs : List Char} {t : Token} {after : List Token}
    (h : t.Placed cs after) : ∀ text ∈ t.texts, text.toList ⊆ t.raw.toList := by
  rw [Token.texts, List.forall_mem_cons]
  refine ⟨List.Subset.refl _, fun text htext => ?_⟩
  rw [Option.mem_toList] at htext
  by_cases hplain : t.body.kind = .plainText
  · rw [h.plain hplain] at htext
    cases htext
    exact List.Subset.refl _
  · obtain ⟨m, payload, haccepts, hbody⟩ := h.accepts hplain
    rw [Matcher.text?_of_body hbody text htext, String.toList_ofList]
    exact haccepts.subset

/-- **Every text of a dump is made of characters of its argument.** -/
lemma Group.texts_subset_of_ofArguments {args : List String} {groups : List Group}
    (h : Group.ofArguments args = .ok groups) :
    ∀ g ∈ groups, g.argument ∈ args ∧ ∀ text ∈ g.texts, text.toList ⊆ g.argument.toList := by
  intro g hg
  obtain ⟨arg, harg, hgroup⟩ := exists_mem_of_mapM_eq_ok h hg
  obtain ⟨tokens, htokens, rfl⟩ := map_eq_ok_iff.mp hgroup
  rw [tokenize_eq_mapM, mapM_token_cutWith_iff] at htokens
  refine ⟨harg, ?_⟩
  rw [Group.texts, List.forall_mem_cons]
  refine ⟨List.Subset.refl _, fun text htext c hc => ?_⟩
  obtain ⟨t, ht, htext⟩ := List.mem_flatMap.mp htext
  obtain ⟨before, after, hsplit⟩ := List.append_of_mem ht
  have hraw := (htokens.placed before t after hsplit).texts_subset text htext hc
  rw [← htokens.source]
  exact List.mem_flatMap.mpr ⟨t, ht, hraw⟩

/-! ## Dumps load back -/

lemma reread_str_iff (text : String) :
    (Value.str text).reread rereadScalar = .str text ↔ Survives text := by
  rw [Value.reread, Value.scalar.injEq, rereadScalar_str_iff]

lemma Token.reread_toRecord_iff (t : Token) :
    t.toRecord.reread rereadScalar = t.toRecord ↔ ∀ text ∈ t.texts, Survives text := by
  obtain ⟨raw, body⟩ := t
  have hnull : Value.null.reread rereadScalar = .null := rfl
  cases body with
  | sigil text | number text | block text | plain text | invalid text =>
    simp [Token.toRecord, Record.reread, Token.texts, Body.text?, reread_str_iff]
  | field n | fieldFromEnd n =>
    simp [Token.toRecord, Record.reread, Token.texts, Body.text?, reread_str_iff, hnull]
  | range first last =>
    simp [Token.toRecord, Record.reread, Token.texts, Body.text?, reread_str_iff, hnull]

lemma Group.reread_toRecord_iff (g : Group) :
    g.toRecord.reread rereadScalar = g.toRecord ↔ ∀ text ∈ g.texts, Survives text := by
  have htokens : (g.tokens.map Token.toRecord).map (Record.reread rereadScalar) =
      g.tokens.map Token.toRecord ↔ ∀ t ∈ g.tokens, ∀ text ∈ t.texts, Survives text := by
    rw [List.map_map, List.map_inj_left]
    exact forall₂_congr fun t _ => t.reread_toRecord_iff
  rw [Group.toRecord, RecordGroup.reread, RecordGroup.mk.injEq, reread_str_iff, htokens]
  simp only [Group.texts, List.forall_mem_cons, List.mem_flatMap]
  refine and_congr_right fun _ => ⟨?_, ?_⟩
  · rintro h text ⟨t, ht, htext⟩
    exact h t ht text htext
  · intro h t ht text htext
    exact h text ⟨t, ht, htext⟩

/-- **YAML dumps load back, but for next-line controls.**  The groups of arguments are always loaded
from their dump, with the same kinds, numbers and range ends and with their texts as these are read
back.  They come back unchanged exactly if every text of theirs with a next-line control is one that
is written between double quotes, and so they always do if no argument holds that character. -/
theorem yaml_dump_loads_back_iff (args : List String) (groups : List Group)
    (h : Group.ofArguments args = .ok groups) :
    Dump.load .yaml (Dump.render .yaml (groups.map Group.toRecord)) =
      .ok ((groups.map Group.toRecord).map (RecordGroup.reread rereadScalar)) ∧
    (Dump.load .yaml (Dump.render .yaml (groups.map Group.toRecord)) =
        .ok (groups.map Group.toRecord) ↔
      ∀ g ∈ groups, ∀ text ∈ g.texts, Survives text) ∧
    ((∀ arg ∈ args, '\x85' ∉ arg.toList) →
      Dump.load .yaml (Dump.render .yaml (groups.map Group.toRecord)) =
        .ok (groups.map Group.toRecord)) := by
  have hload := load_render_yaml (Group.storable_of_ofArguments h)
  have hiff : Dump.load .yaml (Dump.render .yaml (groups.map Group.toRecord)) =
      .ok (groups.map Group.toRecord) ↔ ∀ g ∈ groups, ∀ text ∈ g.texts, Survives text := by
    rw [hload, Except.ok.injEq, List.map_map, List.map_inj_left]
    exact forall₂_congr fun g _ => g.reread_toRecord_iff
  refine ⟨hload, hiff, fun hargs => hiff.mpr fun g hg text htext hmem => ?_⟩
  obtain ⟨harg, htexts⟩ := Group.texts_subset_of_ofArguments h g hg
  exact absurd (htexts text htext hmem) (hargs g.argument harg)

/-- A next-line control beside a character that only double quotes can hold; and a range with one end
left open, texts in all three styles and an argument without tokens. -/
theorem yaml_dump_loads_back_range_and_styles :
    (∃ groups, Group.ofArguments ["\x07\x85"] = .ok groups ∧
      Dump.load .yaml (Dump.render .yaml (groups.map Group.toRecord)) =
        .ok (groups.map Group.toRecord)) ∧
    ∃ groups, Group.ofArguments ["%\x7b-2:\x7d", "é𝄞 x", "it's:\nno", "\"\x00", ""] = .ok groups ∧
      Dump.load .yaml (Dump.render .yaml (groups.map Group.toRecord)) =
        .ok (groups.map Group.toRecord) := by
  constructor
  · have hgroups : Group.ofArguments ["\x07\x85"] =
        .ok [⟨"\x07\x85", [⟨"\x07\x85", .plain "\x07\x85"⟩]⟩] := by cbv
    have hstyle : Style.ofText "\x07\x85" = .doubleQuoted := by decide
    refine ⟨_, hgroups, (yaml_dump_loads_back_iff _ _ hgroups).2.1.mpr ?_⟩
    simp [Group.texts, Token.texts, Body.text?, Survives, hstyle]
  · obtain ⟨groups, hgroups⟩ : ∃ groups, Group.ofArguments
        ["%\x7b-2:\x7d", "é𝄞 x", "it's:\nno", "\"\x00", ""] = .ok groups := ⟨_, by cbv⟩
    exact ⟨groups, hgroups, (yaml_dump_loads_back_iff _ groups hgroups).2.2 (by decide)⟩

/-- A next-line control between single quotes comes back as a space. -/
theorem yaml_dump_turns_next_line_into_space :
    ∃ groups, Group.ofArguments ["a\x85b"] = .ok groups ∧
      Dump.load .yaml (Dump.render .yaml (groups.map Group.toRecord)) =
        .ok [⟨.str "a b", [{ kind := .plainText, raw := .str "a b", text := .str "a b" }]⟩] ∧
      Dump.load .yaml (Dump.render .yaml (groups.map Group.toRecord)) ≠
        .ok (groups.map Group.toRecord) := by
  have hgroups : Group.ofArguments ["a\x85b"] =
      .ok [⟨"a\x85b", [⟨"a\x85b", .plain "a\x85b"⟩]⟩] := by cbv
  have hload := load_render_yaml (Group.storable_of_ofArguments hgroups)
  have htext : (Value.str "a\x85b").reread rereadScalar = .str "a b" := by
    have hscalar : rereadScalar (.str "a\x85b") = .str "a b" := by decide
    rw [Value.reread, hscalar]
  refine ⟨_, hgroups, ?_, ?_⟩
  · rw [hload]
    simp [Group.toRecord, Token.toRecord, Body.kind, RecordGroup.reread, Record.reread, htext]
  · rw [hload]
    simp [Group.toRecord, Token.toRecord, RecordGroup.reread, Record.reread, htext]

end PrintSpec
