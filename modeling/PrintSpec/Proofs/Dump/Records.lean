import PrintSpec.Proofs.Encoding
import PrintSpec.Proofs.TokenForm
import PrintSpec.Record

/-!
# Records and their document values

A dump holds one mapping for every token.  The mapping shows the ends of a range for ranges only, so
a record is read back from its mapping exactly when it has no ends that its kind does not show:
`Record.ofValue_toValue`.

`RecordGroup.Storable` is what a document format is asked to keep: texts, natural numbers that can be
written, and truth values, each where a token has them.  The tokens of every argument are storable
(`Group.storable_of_ofArguments`), since a number that could be read can also be written.  Their texts
are whole, while a text that is loaded from a document can hold halves of characters.
-/

namespace PrintSpec

open PrintSpec.Text

/-! ## Reading a mapping back -/

@[simp] lemma Value.get?_map (key : String) (entries : List (Scalar × Value)) :
    Value.get? key (.map entries) = .ok (Value.lookup? key entries) := rfl

@[simp] lemma Value.lookup?_nil (key : String) : Value.lookup? key [] = none := rfl

@[simp] lemma Value.lookup?_cons (key name : String) (v : Value)
    (entries : List (Scalar × Value)) :
    Value.lookup? key ((.str name, v) :: entries) =
      if name = key then some v else Value.lookup? key entries := by
  by_cases h : name = key
  · simp [Value.lookup?, h]
  · simp [Value.lookup?, h]

lemma Value.lookup?_append (key : String) (as bs : List (Scalar × Value)) :
    Value.lookup? key (as ++ bs) = (Value.lookup? key as).or (Value.lookup? key bs) := by
  simp [Value.lookup?, List.find?_append, Option.map_or]

lemma Value.eq_null_of_isNull {v : Value} (h : v.isNull) : v = .null := by
  unfold Value.isNull at h
  split at h
  · rfl
  · cases h

/-- An entry that is left out where its value is missing is found under its key only. -/
@[simp] lemma lookup?_optionalEntry (key name : String) (v : Value) :
    Value.lookup? key (optionalEntry name v) =
      if name = key ∧ v.isNull = false then some v else none := by
  unfold optionalEntry
  by_cases hnull : v.isNull
  · simp [hnull]
  · simp [hnull]

@[simp] lemma getD_if_isNull (v : Value) :
    (if v.isNull = false then some v else none).getD .null = v := by
  by_cases hnull : v.isNull
  · rw [Value.eq_null_of_isNull hnull]
    rfl
  · simp [hnull]

@[simp] lemma Kind.ofValue_name (k : Kind) : Kind.ofValue (.str k.name) = .ok k := by
  have hname : Kind.ofName? k.name = some k := by cases k <;> decide
  simp [Kind.ofValue, Value.text?, hname]

@[simp] lemma BoundRecord.ofValue?_boundValue (b : Option BoundRecord) :
    BoundRecord.ofValue? (boundValue b) = .ok b := by
  cases b <;> rfl

/-- The ends of a record are shown by its mapping: there are none, or the record is a range. -/
def Record.ShowsEnds (r : Record) : Prop :=
  r.kind ≠ .rangeField → r.first = none ∧ r.last = none

/-- **A record is read back from its mapping** if its ends are shown there. -/
lemma Record.ofValue_toValue {r : Record} (h : r.ShowsEnds) :
    Record.ofValue r.toValue = .ok r := by
  obtain ⟨kind, raw, text, number, first, last⟩ := r
  by_cases hkind : kind = .rangeField
  · simp [Record.ofValue, Record.toValue, Value.get, Value.lookup?_append, hkind, bind,
      Except.bind, pure, Except.pure]
  · obtain ⟨rfl, rfl⟩ : first = none ∧ last = none := h hkind
    have hnone : BoundRecord.ofValue? .null = .ok none := rfl
    simp [Record.ofValue, Record.toValue, Value.get, Value.lookup?_append, hkind, hnone, bind,
      Except.bind, pure, Except.pure]

lemma RecordGroup.ofValue_toValue {g : RecordGroup} (h : ∀ r ∈ g.tokens, r.ShowsEnds) :
    RecordGroup.ofValue g.toValue = .ok g := by
  have htokens : (g.tokens.map Record.toValue).mapM Record.ofValue = .ok g.tokens := by
    rw [mapM_eq_ok_iff, List.forall₂_map_left_iff, List.forall₂_same]
    exact fun r hr => Record.ofValue_toValue (h r hr)
  simp [RecordGroup.ofValue, RecordGroup.toValue, Value.get, Value.items, htokens, bind,
    Except.bind, pure, Except.pure]

/-- The groups of a document are read back from their mappings. -/
lemma RecordGroup.ofDocument_toValue {groups : List RecordGroup}
    (h : ∀ g ∈ groups, ∀ r ∈ g.tokens, r.ShowsEnds) :
    RecordGroup.ofDocument (.list (groups.map RecordGroup.toValue)) = .ok groups := by
  have hgroups : (groups.map RecordGroup.toValue).mapM RecordGroup.ofValue = .ok groups := by
    rw [mapM_eq_ok_iff, List.forall₂_map_left_iff, List.forall₂_same]
    exact fun g hg => RecordGroup.ofValue_toValue (h g hg)
  simpa [RecordGroup.ofDocument, Value.items, bind, Except.bind] using hgroups

/-! ## Records that a document can keep -/

namespace Value

/-- A value that is a text without halves of characters. -/
def IsWhole (v : Value) : Prop :=
  ∃ s, v = .str s

/-- A value that is a text of any code points. -/
def IsText (v : Value) : Prop :=
  ∃ codes, (∀ n ∈ codes, n < codeSpace) ∧ v = .scalar (.ofCodes codes)

/-- A value that is a text without pairs of halves. -/
def IsUnpaired (v : Value) : Prop :=
  ∃ codes, (∀ n ∈ codes, n < codeSpace) ∧ Unpaired codes ∧ v = .scalar (.ofCodes codes)

/-- A value that is a natural number within the limit for writing. -/
def IsNatural (v : Value) : Prop :=
  ∃ n : Nat, n < 10 ^ Numeral.digitLimit ∧ v = .int n

lemma IsNatural.lt {n : Nat} (h : (Value.int n).IsNatural) : n < 10 ^ Numeral.digitLimit := by
  obtain ⟨m, hm, hnumber⟩ := h
  have hsame : (n : Int) = m := Scalar.int.inj (Value.scalar.inj hnumber)
  rwa [Int.ofNat.inj hsame]

lemma IsText.ne_null {v : Value} (h : v.IsText) : v ≠ .null := by
  rintro rfl
  obtain ⟨codes, -, hnull⟩ := h
  have hcodes := codes?_ofCodes codes
  rw [← hnull] at hcodes
  cases hcodes

lemma IsUnpaired.isText {v : Value} (h : v.IsUnpaired) : v.IsText := by
  obtain ⟨codes, hcodes, -, rfl⟩ := h
  exact ⟨codes, hcodes, rfl⟩

lemma IsWhole.isUnpaired {v : Value} (h : v.IsWhole) : v.IsUnpaired := by
  obtain ⟨s, rfl⟩ := h
  exact ⟨Text.codes s, fun n => lt_codeSpace_of_mem_codes, unpaired_codes s, by rw [ofCodes_codes]⟩

lemma IsWhole.isText {v : Value} (h : v.IsWhole) : v.IsText :=
  h.isUnpaired.isText

end Value

/-- A range end whose number is natural and whose direction is a truth value. -/
structure BoundRecord.Storable (b : BoundRecord) : Prop where
  value : b.value.IsNatural
  fromEnd : ∃ flag, b.fromEnd = .bool flag

/-- A record whose values have the types that the values of a token have, where `T` says which texts
are meant. -/
structure Record.Storable (T : Value → Prop) (r : Record) : Prop where
  raw : T r.raw
  text : r.text = .null ∨ T r.text
  number : r.number = .null ∨ r.number.IsNatural
  first : ∀ b ∈ r.first, b.Storable
  last : ∀ b ∈ r.last, b.Storable
  showsEnds : r.ShowsEnds

/-- The records of one argument, each with values of the right types. -/
structure RecordGroup.Storable (T : Value → Prop) (g : RecordGroup) : Prop where
  argument : T g.argument
  tokens : ∀ r ∈ g.tokens, r.Storable T

lemma Record.Storable.mono {T U : Value → Prop} (hTU : ∀ v, T v → U v) {r : Record}
    (h : r.Storable T) : r.Storable U :=
  { h with raw := hTU _ h.raw, text := h.text.imp_right (hTU _) }

lemma RecordGroup.Storable.mono {T U : Value → Prop} (hTU : ∀ v, T v → U v) {g : RecordGroup}
    (h : g.Storable T) : g.Storable U :=
  ⟨hTU _ h.argument, fun r hr => (h.tokens r hr).mono hTU⟩

/-! ## The records of tokens -/

/-- A range end whose number can be written. -/
def Bound.Writable (b : Bound) : Prop :=
  b.value.natAbs < 10 ^ Numeral.digitLimit

/-- The numbers in a body can be written. -/
def Body.Writable : Body → Prop
  | .field n | .fieldFromEnd n => n < 10 ^ Numeral.digitLimit
  | .range first last => (∀ b ∈ first, b.Writable) ∧ ∀ b ∈ last, b.Writable
  | _ => True

lemma Bound.writable_of_read {text : String} {b : Bound} (h : Bound.read text = .ok b) :
    b.Writable := by
  unfold Bound.read at h
  split at h
  all_goals
    obtain ⟨n, hn, rfl⟩ := map_eq_ok_iff.mp h
    exact Numeral.natAbs_lt_of_read hn

lemma Matcher.writable_of_boundOf {cs : List Char} {bound : Option Bound}
    (h : Matcher.boundOf cs = .ok bound) : ∀ b ∈ bound, b.Writable := by
  unfold Matcher.boundOf at h
  split at h
  · cases h
    simp
  · obtain ⟨b, hb, rfl⟩ := map_eq_ok_iff.mp h
    rintro b' ⟨⟩
    exact Bound.writable_of_read hb

lemma Matcher.writable_of_fieldBody {cs : List Char} {b : Body}
    (h : Matcher.fieldBody cs = .ok b) : b.Writable := by
  obtain ⟨digits, n, hn, rfl | rfl⟩ := Matcher.fieldBody_cases h
  · exact Numeral.lt_of_readDigits hn
  · exact Numeral.lt_of_readDigits hn

lemma Matcher.writable_of_bracedBody {cs : List Char} {b : Body}
    (h : Matcher.bracedBody cs = .ok b) : b.Writable := by
  rcases Matcher.bracedBody_cases h with hfield | rfl | ⟨first, last, a, c, -, hfirst, hlast, rfl⟩
  · exact Matcher.writable_of_fieldBody hfield
  · trivial
  · exact ⟨Matcher.writable_of_boundOf hfirst, Matcher.writable_of_boundOf hlast⟩

/-- Every number that a piece of an argument holds can be written. -/
lemma Piece.writable_of_token {p : Piece} {t : Token} (h : p.token = .ok t) :
    t.body.Writable := by
  obtain ⟨b, hb, rfl⟩ := map_eq_ok_iff.mp h
  cases p with
  | plain text =>
    cases hb
    trivial
  | found m text payload =>
    cases m with
    | escapedAt | escapedPercent | literalNumber | literalBlock =>
      cases hb
      trivial
    | bracedField => exact Matcher.writable_of_bracedBody hb
    | explicitField | implicitField => exact Matcher.writable_of_fieldBody hb

lemma Bound.storable_toRecord {b : Bound} (hnat : 0 ≤ b.value) (hwrite : b.Writable) :
    b.toRecord.Storable := by
  refine ⟨⟨b.value.natAbs, hwrite, ?_⟩, b.fromEnd, rfl⟩
  simp only [Bound.toRecord, Int.natAbs_of_nonneg hnat]

lemma storable_map_toRecord {bound : Option Bound} (hnat : NaturalEnd bound)
    (hwrite : ∀ b ∈ bound, b.Writable) : ∀ b ∈ bound.map Bound.toRecord, b.Storable := by
  intro b hb
  obtain ⟨b', hb', rfl⟩ := Option.map_eq_some_iff.mp hb
  exact Bound.storable_toRecord (hnat b' hb') (hwrite b' hb')

lemma Token.storable_toRecord {t : Token} (hnat : t.body.Natural) (hwrite : t.body.Writable) :
    t.toRecord.Storable Value.IsWhole := by
  obtain ⟨raw, body⟩ := t
  cases body with
  | sigil text | number text | block text | plain text | invalid text =>
    exact ⟨⟨raw, rfl⟩, .inr ⟨text, rfl⟩, .inl rfl, by simp [Token.toRecord],
      by simp [Token.toRecord], fun _ => ⟨rfl, rfl⟩⟩
  | field n | fieldFromEnd n =>
    exact ⟨⟨raw, rfl⟩, .inl rfl, .inr ⟨n, hwrite, rfl⟩, by simp [Token.toRecord],
      by simp [Token.toRecord], fun _ => ⟨rfl, rfl⟩⟩
  | range first last =>
    exact ⟨⟨raw, rfl⟩, .inl rfl, .inl rfl, storable_map_toRecord hnat.1 hwrite.1,
      storable_map_toRecord hnat.2 hwrite.2, fun h => absurd rfl h⟩

lemma Piece.storable_of_token {p : Piece} {t : Token} (h : p.token = .ok t) :
    t.toRecord.Storable Value.IsWhole :=
  Token.storable_toRecord (Piece.natural_of_token h) (Piece.writable_of_token h)

/-- **The tokens of arguments are storable.** -/
lemma Group.storable_of_ofArguments {args : List String} {groups : List Group}
    (h : Group.ofArguments args = .ok groups) :
    ∀ g ∈ groups.map Group.toRecord, g.Storable Value.IsWhole := by
  intro g' hg'
  obtain ⟨g, hg, rfl⟩ := List.mem_map.mp hg'
  refine ⟨⟨g.argument, rfl⟩, ?_⟩
  intro r hr
  obtain ⟨t, ht, rfl⟩ := List.mem_map.mp hr
  obtain ⟨p, hp⟩ := exists_piece_of_ofArguments h hg ht
  exact Piece.storable_of_token hp

end PrintSpec
