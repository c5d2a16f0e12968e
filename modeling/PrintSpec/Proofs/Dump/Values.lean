import PrintSpec.Dump
import PrintSpec.Proofs.Dump.Records

/-!
# Values that a document keeps

The values of a dump are built from texts, truth values, natural numbers and the missing value, by
lists and by mappings whose keys are texts, each of them once.  `Value.Kept` describes these values,
whatever their shape is.  Nothing in them is too long to be written, and a mapping that is rebuilt
entry by entry is the same mapping again.

Neither format keeps all texts.  `Value.reread` says what is read of a value, given what is read of
each scalar, and `load_of_parse` carries that over to the groups of a dump.
-/

namespace PrintSpec

/-- A scalar that a document is asked to keep. -/
def Scalar.Kept : Scalar → Prop
  | .null | .bool _ | .str _ => True
  | .int n => ∃ m : Nat, m < 10 ^ Numeral.digitLimit ∧ n = m
  | .torn codes => Text.charsOf? codes = none ∧ ∀ n ∈ codes, n < Text.codeSpace
  | .double _ => False

mutual

/-- A value that a document keeps. -/
def Value.Kept : Value → Prop
  | .scalar s => s.Kept
  | .list items => Value.AllKept items
  | .map entries => (entries.map Prod.fst).Nodup ∧ Value.EntriesKept entries

/-- A list of values that a document keeps. -/
def Value.AllKept : List Value → Prop
  | [] => True
  | v :: vs => v.Kept ∧ Value.AllKept vs

/-- A list of entries that a document keeps: their keys are texts. -/
def Value.EntriesKept : List (Scalar × Value) → Prop
  | [] => True
  | (k, v) :: es => (∃ s, k = .str s) ∧ v.Kept ∧ Value.EntriesKept es

end

lemma Scalar.Kept.isShowable {s : Scalar} (h : s.Kept) : s.isShowable := by
  cases s with
  | int n =>
    obtain ⟨m, hm, rfl⟩ := h
    exact Numeral.isWritable_iff.mpr hm
  | _ => rfl

namespace Value

lemma allKept_iff {vs : List Value} : AllKept vs ↔ ∀ v ∈ vs, v.Kept := by
  induction vs with
  | nil => simp [AllKept]
  | cons v vs ih => simp [AllKept, ih]

lemma entriesKept_iff {es : List (Scalar × Value)} :
    EntriesKept es ↔ ∀ e ∈ es, (∃ s, e.1 = .str s) ∧ e.2.Kept := by
  induction es with
  | nil => simp [EntriesKept]
  | cons e es ih => simp [EntriesKept, ih, and_assoc]

/-! ## Nothing in it is too long to be written -/

mutual

lemma Kept.isShowable : ∀ {v : Value}, v.Kept → v.isShowable
  | .scalar _, h => Scalar.Kept.isShowable h
  | .list _, h => AllKept.areShowable h
  | .map _, h => EntriesKept.entriesShowable h.2

lemma AllKept.areShowable : ∀ {vs : List Value}, AllKept vs → areShowable vs
  | [], _ => rfl
  | v :: vs, h => by
    rw [areShowable, Kept.isShowable h.1, AllKept.areShowable h.2]
    rfl

lemma EntriesKept.entriesShowable :
    ∀ {es : List (Scalar × Value)}, EntriesKept es → entriesShowable es
  | [], _ => rfl
  | (k, v) :: es, ⟨⟨s, hs⟩, hv, hes⟩ => by
    rw [Value.entriesShowable, Kept.isShowable hv, EntriesKept.entriesShowable hes, hs]
    rfl

end

/-! ## Mappings -/

/-- An entry with a new key goes to the end. -/
lemma insertEntry_of_new {entries : List (Scalar × Value)} {key : String} {value : Value}
    (hkeys : ∀ e ∈ entries, ∃ s, e.1 = .str s) (hnew : .str key ∉ entries.map Prod.fst) :
    insertEntry entries (.str key) value = entries ++ [(.str key, value)] := by
  induction entries with
  | nil => rfl
  | cons e entries ih =>
    obtain ⟨s, hs⟩ := hkeys e List.mem_cons_self
    have hne : e.1 ≠ .str key := fun h => hnew (by simp [h])
    have hsame : sameKey e.1 (.str key) = false := by
      rw [sameKey, hs]
      simpa [asWhole, hs] using hne
    rw [insertEntry, if_neg (by simp [hsame]), List.cons_append,
      ih (fun e' he' => hkeys e' (List.mem_cons_of_mem e he'))
        fun h => hnew (by simpa using Or.inr (by simpa using h))]

/-- A mapping with text keys, each of them once, is rebuilt from its entries. -/
lemma ofEntries_of_nodup {entries : List (Scalar × Value)} (hnodup : (entries.map Prod.fst).Nodup)
    (hkeys : ∀ e ∈ entries, ∃ s, e.1 = .str s) : ofEntries entries = .map entries := by
  -- what has been taken over so far, and what is still to come, make up the mapping
  have hfold : ∀ before after : List (Scalar × Value), entries = before ++ after →
      after.foldl (fun acc e => insertEntry acc e.1 e.2) before = entries := by
    intro before after hsplit
    induction after generalizing before with
    | nil => simp [hsplit]
    | cons e after ih =>
      obtain ⟨s, hs⟩ := hkeys e (by simp [hsplit])
      have hbefore : ∀ e' ∈ before, ∃ s, e'.1 = .str s :=
        fun e' he' => hkeys e' (by simp [hsplit, he'])
      have hnew : .str s ∉ before.map Prod.fst := by
        rw [hsplit, List.map_append, List.map_cons, hs] at hnodup
        intro hmem
        exact (List.nodup_append.mp hnodup).2.2 _ hmem _ List.mem_cons_self rfl
      rw [List.foldl_cons, hs, insertEntry_of_new hbefore hnew]
      refine ih _ ?_
      rw [hsplit, ← hs]
      simp
  rw [ofEntries, hfold [] entries rfl]

end Value

/-! ## The values of records -/

lemma Scalar.kept_ofCodes {codes : List Nat} (h : ∀ n ∈ codes, n < Text.codeSpace) :
    (Scalar.ofCodes codes).Kept := by
  unfold Scalar.ofCodes
  split
  · trivial
  · rename_i hnone
    exact ⟨hnone, h⟩

lemma Value.IsText.kept {v : Value} (h : v.IsText) : v.Kept := by
  obtain ⟨codes, hcodes, rfl⟩ := h
  exact Scalar.kept_ofCodes hcodes

lemma Value.IsNatural.kept {v : Value} (h : v.IsNatural) : v.Kept := by
  obtain ⟨n, hn, rfl⟩ := h
  exact ⟨n, hn, rfl⟩

lemma BoundRecord.Storable.kept {b : BoundRecord} (h : b.Storable) : b.toValue.Kept := by
  obtain ⟨flag, hflag⟩ := h.fromEnd
  refine ⟨by simp, ⟨_, rfl⟩, h.value.kept, ⟨_, rfl⟩, ?_, trivial⟩
  rw [hflag]
  trivial

lemma kept_boundValue {bound : Option BoundRecord} (h : ∀ b ∈ bound, b.Storable) :
    (boundValue bound).Kept := by
  cases bound with
  | none => trivial
  | some b => exact (h b rfl).kept

lemma entriesKept_optionalEntry (key : String) {v : Value} (h : v.Kept) :
    Value.EntriesKept (optionalEntry key v) := by
  unfold optionalEntry
  split
  · trivial
  · exact ⟨⟨key, rfl⟩, h, trivial⟩

/-- The keys of a record's mapping are some of the six keys, in their order. -/
lemma Record.keys_toValue (r : Record) :
    ∃ entries, r.toValue = .map entries ∧
      (entries.map Prod.fst).Sublist
        (["kind", "raw", "text", "number", "start", "end"].map Scalar.str) := by
  refine ⟨_, rfl, ?_⟩
  have hoptional : ∀ (key : String) (v : Value),
      ((optionalEntry key v).map Prod.fst).Sublist [.str key] := by
    intro key v
    unfold optionalEntry
    split <;> simp
  have hends : ((if r.kind = .rangeField then
      [(Scalar.str "start", boundValue r.first), (.str "end", boundValue r.last)]
      else []).map Prod.fst).Sublist [.str "start", .str "end"] := by
    split <;> simp
  simp only [List.map_append]
  exact (((List.Sublist.refl _).append (hoptional "text" r.text)).append
    (hoptional "number" r.number)).append hends

lemma Record.Storable.kept {r : Record} (h : r.Storable Value.IsText) : r.toValue.Kept := by
  have htext : r.text.Kept := by
    rcases h.text with hnull | htext
    · rw [hnull]
      trivial
    · exact htext.kept
  have hnumber : r.number.Kept := by
    rcases h.number with hnull | hnumber
    · rw [hnull]
      trivial
    · exact hnumber.kept
  have hends : Value.EntriesKept (if r.kind = .rangeField then
      [(Scalar.str "start", boundValue r.first), (.str "end", boundValue r.last)] else []) := by
    split
    · exact ⟨⟨_, rfl⟩, kept_boundValue h.first, ⟨_, rfl⟩, kept_boundValue h.last, trivial⟩
    · trivial
  constructor
  · obtain ⟨entries, hentries, hkeys⟩ := r.keys_toValue
    obtain rfl := Value.map.inj hentries
    exact hkeys.nodup (by decide)
  · have hkind : Value.EntriesKept [(.str "kind", .str r.kind.name), (.str "raw", r.raw)] :=
      ⟨⟨_, rfl⟩, trivial, ⟨_, rfl⟩, h.raw.kept, trivial⟩
    have htext' := entriesKept_optionalEntry "text" htext
    have hnumber' := entriesKept_optionalEntry "number" hnumber
    rw [Value.entriesKept_iff] at *
    simp only [List.mem_append]
    rintro e (((he | he) | he) | he)
    · exact hkind e he
    · exact htext' e he
    · exact hnumber' e he
    · exact hends e he

lemma RecordGroup.Storable.kept {g : RecordGroup} (h : g.Storable Value.IsText) :
    g.toValue.Kept := by
  refine ⟨by simp, ⟨_, rfl⟩, h.argument.kept, ⟨_, rfl⟩, ?_, trivial⟩
  rw [Value.Kept, Value.allKept_iff]
  intro v hv
  obtain ⟨r, hr, rfl⟩ := List.mem_map.mp hv
  exact (h.tokens r hr).kept

/-- The document of storable groups is one that a format is asked to keep. -/
lemma kept_document {groups : List RecordGroup} (h : ∀ g ∈ groups, g.Storable Value.IsText) :
    (Value.list (groups.map RecordGroup.toValue)).Kept := by
  rw [Value.Kept, Value.allKept_iff]
  intro v hv
  obtain ⟨g, hg, rfl⟩ := List.mem_map.mp hv
  exact (h g hg).kept

lemma Group.kept_document {args : List String} {groups : List Group}
    (h : Group.ofArguments args = .ok groups) :
    (Value.list ((groups.map Group.toRecord).map RecordGroup.toValue)).Kept :=
  PrintSpec.kept_document fun g hg =>
    (Group.storable_of_ofArguments h g hg).mono fun _ => Value.IsWhole.isText

/-! ## Values as they are read back -/

namespace Value

mutual

/-- A value as it is read back, where `f` says how its scalars are.  Keys are always kept. -/
def reread (f : Scalar → Scalar) : Value → Value
  | .scalar s => .scalar (f s)
  | .list vs => .list (rereadItems f vs)
  | .map es => .map (rereadEntries f es)

/-- Values as they are read back. -/
def rereadItems (f : Scalar → Scalar) : List Value → List Value
  | [] => []
  | v :: vs => reread f v :: rereadItems f vs

/-- Entries as they are read back. -/
def rereadEntries (f : Scalar → Scalar) : List (Scalar × Value) → List (Scalar × Value)
  | [] => []
  | (k, v) :: es => (k, reread f v) :: rereadEntries f es

end

variable (f : Scalar → Scalar)

lemma rereadItems_eq_map (vs : List Value) : rereadItems f vs = vs.map (reread f) := by
  induction vs with
  | nil => rfl
  | cons v vs ih => rw [rereadItems, ih, List.map_cons]

lemma rereadEntries_append (as bs : List (Scalar × Value)) :
    rereadEntries f (as ++ bs) = rereadEntries f as ++ rereadEntries f bs := by
  induction as with
  | nil => rfl
  | cons e as ih => simp [rereadEntries, ih]

lemma keys_rereadEntries (es : List (Scalar × Value)) :
    (rereadEntries f es).map Prod.fst = es.map Prod.fst := by
  induction es with
  | nil => rfl
  | cons e es ih => simp [rereadEntries, ih]

/-- A mapping with text keys, each of them once, is rebuilt from its entries as they are read
back. -/
lemma ofEntries_rereadEntries {es : List (Scalar × Value)} (hnodup : (es.map Prod.fst).Nodup)
    (hkeys : ∀ e ∈ es, ∃ s, e.1 = .str s) :
    ofEntries (rereadEntries f es) = .map (rereadEntries f es) := by
  have hsame := keys_rereadEntries f es
  refine ofEntries_of_nodup (hsame ▸ hnodup) fun e he => ?_
  obtain ⟨e', he', hkey⟩ := List.mem_map.mp (hsame ▸ List.mem_map_of_mem (f := Prod.fst) he)
  exact hkey ▸ hkeys e' he'

end Value

/-- A way to read scalars back in which only texts can change, and the names of the kinds do not. -/
structure RereadsTexts (f : Scalar → Scalar) : Prop where
  null : f .null = .null
  bool : ∀ b, f (.bool b) = .bool b
  int : ∀ n, f (.int n) = .int n
  kind : ∀ k : Kind, f (.str k.name) = .str k.name
  eq_null : ∀ s, f s = .null → s = .null

/-- A record as it is read back: only its texts can change. -/
def Record.reread (f : Scalar → Scalar) (r : Record) : Record :=
  { r with raw := r.raw.reread f, text := r.text.reread f }

/-- The records of one argument as they are read back. -/
def RecordGroup.reread (f : Scalar → Scalar) (g : RecordGroup) : RecordGroup :=
  ⟨g.argument.reread f, g.tokens.map (Record.reread f)⟩

section

variable {f : Scalar → Scalar} (hf : RereadsTexts f) {T : Value → Prop}

include hf

lemma Value.isNull_reread (v : Value) : (v.reread f).isNull = v.isNull := by
  by_cases hnull : v.isNull
  · rw [Value.eq_null_of_isNull hnull, Value.reread, hf.null]
  · rw [Bool.not_eq_true] at hnull
    rw [hnull, Bool.eq_false_iff]
    intro hreread
    match v with
    | .scalar s =>
      have hs : f s = .null := Value.scalar.inj (Value.eq_null_of_isNull hreread)
      rw [hf.eq_null s hs] at hnull
      cases hnull
    | .list vs => cases hreread
    | .map es => cases hreread

lemma rereadEntries_optionalEntry (key : String) (v : Value) :
    Value.rereadEntries f (optionalEntry key v) = optionalEntry key (v.reread f) := by
  unfold optionalEntry
  rw [Value.isNull_reread hf]
  split <;> rfl

lemma reread_boundValue {bound : Option BoundRecord} (h : ∀ b ∈ bound, b.Storable) :
    (boundValue bound).reread f = boundValue bound := by
  cases bound with
  | none => exact congrArg Value.scalar hf.null
  | some b =>
    obtain ⟨⟨n, -, hvalue⟩, flag, hflag⟩ := h b rfl
    simp [boundValue, BoundRecord.toValue, Value.reread, Value.rereadEntries, hvalue, hflag, hf.int,
      hf.bool]

lemma Record.Storable.reread_toValue {r : Record} (h : r.Storable T) :
    r.toValue.reread f = (r.reread f).toValue := by
  have hnumber : r.number.reread f = r.number := by
    rcases h.number with hnull | ⟨n, -, hn⟩
    · rw [hnull, Value.reread, hf.null]
    · rw [hn, Value.reread, hf.int]
  have hends : Value.rereadEntries f (if r.kind = .rangeField then
      [(Scalar.str "start", boundValue r.first), (.str "end", boundValue r.last)] else []) =
        if r.kind = .rangeField then
          [(Scalar.str "start", boundValue r.first), (.str "end", boundValue r.last)] else [] := by
    split
    · simp [Value.rereadEntries, reread_boundValue hf h.first, reread_boundValue hf h.last]
    · rfl
  simp only [Record.toValue, Record.reread, Value.reread, Value.rereadEntries_append,
    rereadEntries_optionalEntry hf, hnumber, hends, Value.rereadEntries, hf.kind]
  rfl

lemma RecordGroup.Storable.reread_toValue {g : RecordGroup} (h : g.Storable T) :
    g.toValue.reread f = (g.reread f).toValue := by
  have htokens : Value.rereadItems f (g.tokens.map Record.toValue) =
      (g.tokens.map (Record.reread f)).map Record.toValue := by
    rw [Value.rereadItems_eq_map, List.map_map, List.map_map]
    exact List.map_congr_left fun r hr => (h.tokens r hr).reread_toValue hf
  simp [RecordGroup.toValue, RecordGroup.reread, Value.reread, Value.rereadEntries, htokens]

/-- **Storable groups are loaded from their dump** as its values are read back. -/
lemma load_of_parse {groups : List RecordGroup} (h : ∀ g ∈ groups, g.Storable T)
    {format : DumpFormat} (hparse : Dump.parse format (Dump.render format groups) =
      .ok (.list (Value.rereadItems f (groups.map RecordGroup.toValue)))) :
    Dump.load format (Dump.render format groups) = .ok (groups.map (RecordGroup.reread f)) := by
  have hreread : Value.rereadItems f (groups.map RecordGroup.toValue) =
      (groups.map (RecordGroup.reread f)).map RecordGroup.toValue := by
    rw [Value.rereadItems_eq_map, List.map_map, List.map_map]
    exact List.map_congr_left fun g hg => (h g hg).reread_toValue hf
  have hshows : ∀ g ∈ groups.map (RecordGroup.reread f), ∀ r ∈ g.tokens, r.ShowsEnds := by
    intro g' hg' r' hr'
    obtain ⟨g, hg, rfl⟩ := List.mem_map.mp hg'
    obtain ⟨r, hr, rfl⟩ := List.mem_map.mp hr'
    exact ((h g hg).tokens r hr).showsEnds
  have hcontent : ∀ vs, Dump.content format (.list vs) = .list vs := by
    intro vs
    cases format
    · cases vs <;> rfl
    · rfl
  have hgroups := RecordGroup.ofDocument_toValue hshows
  rw [hreread] at hparse
  simp only [Dump.load, hparse, bind, Except.bind, hcontent, hgroups, Except.mapError]

end

end PrintSpec
