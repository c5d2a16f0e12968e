import PrintSpec.Proofs.Dump.Records

/-!
# Reading a token and writing it again

A mapping is read as a token if it has a known kind and a raw text, and if its range ends, where it
has any, have a number.  Nothing else is asked for: values may be of any type, further keys do not
count, and a token of any kind may have range ends.

Writing is stricter.  It leaves out missing values and further keys, it always says from where a
range end counts, and it leaves out the ends of tokens that are not ranges, although these have been
read.  So what is read from a written token is the token without such ends (`Record.shownPart`).
Nothing else is lost, and the ends that are lost do not show in a program, because only ranges are
compiled from them.
-/

namespace PrintSpec

/-! ## What is read -/

/-- The value under a key; the missing value if there is none. -/
def Value.entry (key : String) : Value → Value
  | .map entries => (lookup? key entries).getD .null
  | _ => .null

lemma Value.entry_eq_of_get? {key : String} {v : Value} {found : Option Value}
    (h : v.get? key = .ok found) : v.entry key = found.getD .null := by
  unfold Value.get? at h
  split at h
  · cases h
    rfl
  · cases h

lemma Value.get?_eq_of_get {key : String} {v value : Value} (h : v.get key = .ok value) :
    v.get? key = .ok (some value) := by
  obtain ⟨found, hfound, h⟩ := bind_eq_ok_iff.mp h
  rw [hfound]
  cases found with
  | none => cases h
  | some value' =>
    cases h
    rfl

lemma Kind.eq_name_of_ofValue {v : Value} {kind : Kind} (h : Kind.ofValue v = .ok kind) :
    v = .str kind.name := by
  unfold Kind.ofValue at h
  split at h
  · rename_i kind' hkind
    cases h
    obtain ⟨name, hname, hfind⟩ := Option.bind_eq_some_iff.mp hkind
    have hsame : kind.name = name := by simpa using List.find?_some hfind
    rw [hsame]
    unfold Value.text? at hname
    split at hname
    · cases hname
      rfl
    · cases hname
  · cases h

/-- The token holds what a mapping says: the values as they are, and the range ends as they are
read. -/
structure Record.ReadFrom (r : Record) (v : Value) : Prop where
  kind : v.entry "kind" = .str r.kind.name
  raw : v.entry "raw" = r.raw
  text : v.entry "text" = r.text
  number : v.entry "number" = r.number
  first : BoundRecord.ofValue? (v.entry "start") = .ok r.first
  last : BoundRecord.ofValue? (v.entry "end") = .ok r.last

lemma Record.readFrom_of_ofValue {v : Value} {r : Record} (h : Record.ofValue v = .ok r) :
    r.ReadFrom v := by
  obtain ⟨kindValue, hkindValue, h⟩ := bind_eq_ok_iff.mp h
  obtain ⟨kind, hkind, h⟩ := bind_eq_ok_iff.mp h
  obtain ⟨raw, hraw, h⟩ := bind_eq_ok_iff.mp h
  obtain ⟨text, htext, h⟩ := bind_eq_ok_iff.mp h
  obtain ⟨number, hnumber, h⟩ := bind_eq_ok_iff.mp h
  obtain ⟨start, hstart, h⟩ := bind_eq_ok_iff.mp h
  obtain ⟨first, hfirst, h⟩ := bind_eq_ok_iff.mp h
  obtain ⟨stop, hstop, h⟩ := bind_eq_ok_iff.mp h
  obtain ⟨last, hlast, h⟩ := bind_eq_ok_iff.mp h
  cases h
  constructor
  · rw [Value.entry_eq_of_get? (Value.get?_eq_of_get hkindValue)]
    exact Kind.eq_name_of_ofValue hkind
  · exact Value.entry_eq_of_get? (Value.get?_eq_of_get hraw)
  · exact Value.entry_eq_of_get? htext
  · exact Value.entry_eq_of_get? hnumber
  · rw [Value.entry_eq_of_get? hstart, hfirst]
  · rw [Value.entry_eq_of_get? hstop, hlast]

/-! ## What is written -/

namespace Record

/-- The part of a token that its mapping shows: the ends only of a range. -/
def shownPart (r : Record) : Record :=
  if r.kind = .rangeField then r else { r with first := none, last := none }

lemma shownPart_of_range {r : Record} (h : r.kind = .rangeField) : r.shownPart = r :=
  if_pos h

lemma shownPart_of_other {r : Record} (h : r.kind ≠ .rangeField) :
    r.shownPart = { r with first := none, last := none } :=
  if_neg h

lemma showsEnds_shownPart (r : Record) : r.shownPart.ShowsEnds := by
  by_cases hkind : r.kind = .rangeField
  · rw [shownPart_of_range hkind]
    exact fun hother => absurd hkind hother
  · rw [shownPart_of_other hkind]
    exact fun _ => ⟨rfl, rfl⟩

lemma toValue_shownPart (r : Record) : r.shownPart.toValue = r.toValue := by
  by_cases hkind : r.kind = .rangeField
  · rw [shownPart_of_range hkind]
  · rw [shownPart_of_other hkind, toValue, toValue, if_neg hkind, if_neg hkind]

/-- The mapping of a token is read as the part that it shows. -/
lemma ofValue_toValue_eq_shownPart (r : Record) : ofValue r.toValue = .ok r.shownPart := by
  rw [← r.toValue_shownPart]
  exact ofValue_toValue r.showsEnds_shownPart

/-- A token is shown as a whole exactly if it is a range or has no ends. -/
lemma shownPart_eq_iff {r : Record} :
    r.shownPart = r ↔ r.kind = .rangeField ∨ r.first = none ∧ r.last = none := by
  by_cases hkind : r.kind = .rangeField
  · exact iff_of_true (shownPart_of_range hkind) (Or.inl hkind)
  · rw [shownPart_of_other hkind, or_iff_right hkind]
    constructor
    · intro h
      exact ⟨(congrArg Record.first h).symm, (congrArg Record.last h).symm⟩
    · rintro ⟨hfirst, hlast⟩
      obtain ⟨kind, raw, text, number, first, last⟩ := r
      obtain rfl : first = none := hfirst
      obtain rfl : last = none := hlast
      rfl

/-- What the mapping does not show is not compiled either. -/
lemma compile_shownPart (argument : Value) (r : Record) :
    r.shownPart.compile argument = r.compile argument := by
  by_cases hkind : r.kind = .rangeField
  · rw [shownPart_of_range hkind]
  · rw [shownPart_of_other hkind]
    -- only the kind of a range reads the ends
    obtain ⟨kind, raw, text, number, first, last⟩ := r
    cases kind with
    | rangeField => exact absurd rfl hkind
    | _ => rfl

end Record

/-- **Reading and writing a token normalises it, and compiling does not see that.**  A token that is
read from a mapping holds its values as they are.  Once written it is read again, as a token that is
written in the same way and that compiles, for every argument, to the same text or fails in the same
way.  It is the same token exactly if that is a range or has no range ends. -/
theorem written_token_read_again {v : Value} {r : Record} (h : Record.ofValue v = .ok r) :
    r.ReadFrom v ∧ ∃ r', Record.ofValue r.toValue = .ok r' ∧ r'.toValue = r.toValue ∧
      (∀ argument, r'.compile argument = r.compile argument) ∧
      (r' = r ↔ r.kind = .rangeField ∨ r.first = none ∧ r.last = none) :=
  ⟨Record.readFrom_of_ofValue h, r.shownPart, r.ofValue_toValue_eq_shownPart, r.toValue_shownPart,
    fun argument => r.compile_shownPart argument, Record.shownPart_eq_iff⟩

/-- A field whose number is a truth value and whose raw text is a number, with a further key, a
missing text and a range end that is lost. -/
theorem written_token_read_again_without_end :
    ∃ r r', Record.ofValue (.map [(.str "kind", .str "field_positive"), (.str "raw", .int 7),
        (.str "text", .null), (.str "number", .bool true), (.str "note", .list []),
        (.str "end", .map [(.str "value", .null), (.str "from_end", .null)])]) = .ok r ∧
      Record.ofValue r.toValue = .ok r' ∧ r' ≠ r ∧
      ∀ argument, r'.compile argument = r.compile argument := by
  have hread : Record.ofValue (.map [(.str "kind", .str "field_positive"), (.str "raw", .int 7),
      (.str "text", .null), (.str "number", .bool true), (.str "note", .list []),
      (.str "end", .map [(.str "value", .null), (.str "from_end", .null)])]) = .ok
      { kind := .fieldPositive, raw := .int 7, number := .bool true
        last := some ⟨.null, .null⟩ } := rfl
  obtain ⟨-, r', hr', -, hcompile, hsame⟩ := written_token_read_again hread
  exact ⟨_, r', hread, hr', fun heq => by simpa using hsame.mp heq, hcompile⟩

end PrintSpec
