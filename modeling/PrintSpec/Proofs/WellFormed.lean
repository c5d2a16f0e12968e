import PrintSpec.Proofs.Dump.Compiling
import PrintSpec.Proofs.FieldSpec
import PrintSpec.Proofs.Slices

/-!
# Well-formed tokens

A record holds a token with all values that any kind of token may have, and nothing in its type says
which of them go with which kind, nor what they have to do with the text that the token covers.
`Record.WellFormed` says both, kind by kind.  The tokens of every argument are well formed, and
nothing else is needed to compile a record: a literal has its text, a field its number, and a range
end its number and direction, so that a missing value is never written into a fragment.

The kinds follow the patterns.  What a pattern covers is a text of its language (`Matcher.Accepts`),
and what it asks for is known from the part that carries the meaning (`Proofs/FieldSpec`), so each
pattern is one case of `Matcher.wellFormed_of_body`.
-/

namespace PrintSpec

open PrintSpec.Awk

/-! ## Records of tokens -/

/-- The value of a text. -/
abbrev Value.ofChars (cs : List Char) : Value :=
  .str (String.ofList cs)

/-- The three ways to write the field that a number names. -/
def SpellsField (raw number : List Char) : Prop :=
  raw = number ∨ raw = '%' :: number ∨ raw = '%' :: '{' :: (number ++ ['}'])

/-- A range end is missing where nothing is written, and otherwise holds the number that its digits
denote and whether a minus stands before them. -/
def SpellsEnd (cs : List Char) : Option BoundRecord → Prop
  | none => cs = []
  | some b => ∃ fromEnd n, Denotes cs fromEnd n ∧ b = ⟨.int n, .bool fromEnd⟩

/-- The records of well-formed tokens.  Values that a kind does not name are missing. -/
inductive Record.WellFormed : Record → Prop
  | sigil {c : Char} (hc : c = '@' ∨ c = '%') :
      WellFormed { kind := .literalEscapedChar, raw := .ofChars [c, c], text := .ofChars [c] }
  | number {text : List Char} (htext : Matcher.IsNumber text) :
      WellFormed { kind := .literalNumber, raw := .ofChars ('@' :: text), text := .ofChars text }
  | block {text : List Char} (htext : '}' ∉ text) :
      WellFormed { kind := .literalBlock, raw := .ofChars ('@' :: '{' :: (text ++ ['}'])),
                   text := .ofChars text }
  | invalid {text : List Char} (htext : '}' ∉ text) :
      WellFormed { kind := .invalidField, raw := .ofChars ('%' :: '{' :: (text ++ ['}'])),
                   text := .ofChars text }
  | plain (text : List Char) :
      WellFormed { kind := .plainText, raw := .ofChars text, text := .ofChars text }
  | field {raw number : List Char} {n : Nat} (hraw : SpellsField raw number)
      (hnumber : Denotes number false n) :
      WellFormed { kind := .fieldPositive, raw := .ofChars raw, number := .int n }
  | fieldFromEnd {raw number : List Char} {n : Nat} (hraw : SpellsField raw number)
      (hnumber : Denotes number true n) :
      WellFormed { kind := .fieldNegative, raw := .ofChars raw, number := .int n }
  | range {a b : List Char} {first last : Option BoundRecord} (hfirst : SpellsEnd a first)
      (hlast : SpellsEnd b last) :
      WellFormed { kind := .rangeField, raw := .ofChars ('%' :: '{' :: (a ++ ':' :: b ++ ['}'])),
                   first := first, last := last }

lemma spellsEnd_toRecord {cs : List Char} {bound : Option Bound} (h : DenotesEnd cs bound) :
    SpellsEnd cs (bound.map Bound.toRecord) := by
  cases bound with
  | none => exact h
  | some b =>
    obtain ⟨n, hn, hcs⟩ := h
    exact ⟨b.fromEnd, n, hcs, by rw [Bound.toRecord, hn]⟩

lemma wellFormed_fieldOf {raw number : List Char} (hraw : SpellsField raw number) {fromEnd : Bool}
    {n : Nat} (hnumber : Denotes number fromEnd n) :
    (Token.toRecord ⟨String.ofList raw, fieldOf fromEnd n⟩).WellFormed := by
  cases fromEnd with
  | false => exact .field hraw hnumber
  | true => exact .fieldFromEnd hraw hnumber

/-- What a pattern covers and what it asks for make a well-formed record. -/
lemma Matcher.wellFormed_of_body {m : Matcher} {text payload : List Char} {b : Body}
    (htext : m.Accepts text payload) (hb : m.body payload = .ok b) :
    (Token.toRecord ⟨String.ofList text, b⟩).WellFormed := by
  cases m with
  | escapedAt =>
    obtain ⟨rfl, rfl⟩ := htext
    cases hb
    exact .sigil (Or.inl rfl)
  | escapedPercent =>
    obtain ⟨rfl, rfl⟩ := htext
    cases hb
    exact .sigil (Or.inr rfl)
  | literalNumber =>
    obtain ⟨rfl, hnumber⟩ := htext
    cases hb
    exact .number hnumber
  | literalBlock =>
    obtain ⟨rfl, hbrace⟩ := htext
    cases hb
    exact .block hbrace
  | bracedField =>
    obtain ⟨rfl, hbrace⟩ := htext
    rcases denotes_of_bracedBody hb with
      ⟨-, fromEnd, n, hn, rfl⟩ | ⟨first, last, a, c, hrange, ha, hc, rfl⟩ | ⟨-, rfl⟩
    · exact wellFormed_fieldOf (Or.inr (Or.inr rfl)) hn
    · rw [hrange.eq_append]
      exact .range (spellsEnd_toRecord ha) (spellsEnd_toRecord hc)
    · exact .invalid hbrace
  | explicitField =>
    obtain ⟨rfl, hnumber⟩ := htext
    obtain ⟨fromEnd, n, hn, rfl⟩ := denotes_of_fieldBody hnumber hb
    exact wellFormed_fieldOf (Or.inr (Or.inl rfl)) hn
  | implicitField =>
    obtain ⟨rfl, hnumber⟩ := htext
    obtain ⟨fromEnd, n, hn, rfl⟩ := denotes_of_fieldBody hnumber hb
    exact wellFormed_fieldOf (Or.inl rfl) hn

lemma Token.Placed.wellFormed {cs : List Char} {t : Token} {ts : List Token}
    (h : t.Placed cs ts) : t.toRecord.WellFormed := by
  by_cases hkind : t.body.kind = .plainText
  · rw [h.eq_ofPlain hkind]
    exact .plain _
  · obtain ⟨m, payload, haccepts, hbody⟩ := h.accepts hkind
    have hrecord := Matcher.wellFormed_of_body haccepts hbody
    rwa [String.ofList_toList] at hrecord

/-! ## Compiling a well-formed record -/

/-- The text of a range end in a fragment is written from the number that the end holds, and stands
for a missing end otherwise. -/
def WritesEnd (missing : String) (bound : Option BoundRecord) (text : String) : Prop :=
  (bound = none ∧ text = missing) ∨
    ∃ (n : Nat) (fromEnd : Bool), bound = some ⟨.int n, .bool fromEnd⟩ ∧
      text = Fragment.operand (toString n) fromEnd

/-- A fragment is written from values that the record has: a text, a number, or the ends of a
range. -/
def Record.Writes (r : Record) : Fragment → Prop
  | .text meaning => r.text = .str meaning
  | .field number | .fieldFromEnd number => ∃ n : Nat, r.number = .int n ∧ number = toString n
  | .range first last =>
    WritesEnd Fragment.openFirst r.first first ∧ WritesEnd Fragment.openLast r.last last

/-- Compiling the record gives a fragment that is written from its values, or fails because the
record is a braced specification that means nothing. -/
def Record.CompilesFromValues (r : Record) (argument : Value) : Prop :=
  (r.kind ≠ .invalidField ∧ ∃ f, r.Writes f ∧ r.compile argument = .ok (.str f.render)) ∨
    (r.kind = .invalidField ∧ r.compile argument = .error (.ofInvalid r.raw argument))

lemma exists_writesEnd {cs : List Char} {bound : Option BoundRecord} (h : SpellsEnd cs bound)
    (hstorable : ∀ b ∈ bound, b.Storable) (missing : String) :
    ∃ text, WritesEnd missing bound text ∧
      Record.boundOperand bound missing = .ok (Text.codes text) := by
  cases bound with
  | none => exact ⟨missing, Or.inl ⟨rfl, rfl⟩, rfl⟩
  | some b =>
    obtain ⟨fromEnd, n, -, rfl⟩ := h
    have hn := (hstorable _ rfl).value.lt
    exact ⟨_, Or.inr ⟨n, fromEnd, rfl, rfl⟩, Record.boundOperand_natural hn fromEnd missing⟩

lemma Record.WellFormed.compilesFromValues {r : Record} (h : r.WellFormed)
    (hstorable : r.Storable Value.IsWhole) (argument : Value) : r.CompilesFromValues argument := by
  cases h with
  | sigil | number | block | plain =>
    exact Or.inl ⟨by simp, .text _, rfl, compile_text rfl (by simp)⟩
  | invalid => exact Or.inr ⟨rfl, compile_invalid rfl⟩
  | @field raw number n =>
    have hn := (hstorable.number.resolve_left (by simp)).lt
    exact Or.inl ⟨by simp, .field (toString n), ⟨n, rfl, rfl⟩, compile_field hn rfl rfl⟩
  | @fieldFromEnd raw number n =>
    have hn := (hstorable.number.resolve_left (by simp)).lt
    exact Or.inl ⟨by simp, .fieldFromEnd (toString n), ⟨n, rfl, rfl⟩,
      compile_fieldFromEnd hn rfl rfl⟩
  | range hfirst hlast =>
    obtain ⟨first, hwrites, hfirst⟩ := exists_writesEnd hfirst hstorable.first Fragment.openFirst
    obtain ⟨last, hwrites', hlast⟩ := exists_writesEnd hlast hstorable.last Fragment.openLast
    exact Or.inl ⟨by simp, .range first last, ⟨hwrites, hwrites'⟩, compile_range rfl hfirst hlast⟩

/-- **Every token of an argument is well formed.**  So compiling it never meets a missing value, and
it fails only where a braced specification means nothing. -/
theorem tokens_wellFormed {argument : String} {tokens : List Token}
    (h : tokenize argument = .ok tokens) {t : Token} (ht : t ∈ tokens) :
    t.toRecord.WellFormed ∧ ∀ source : Value, t.toRecord.CompilesFromValues source := by
  have hrecord := (placed_raw_of_tokenize h ht).wellFormed
  obtain ⟨p, hp⟩ := exists_piece_of_tokenize h ht
  exact ⟨hrecord, hrecord.compilesFromValues (Piece.storable_of_token hp)⟩

/-- A range after plain text, with its first end left open and its last one written with a minus and
Arabic-Indic digits. -/
theorem tokens_wellFormed_range :
    tokenize "x%\x7b:-٠٢\x7d" = .ok
      [⟨"x", .plain "x"⟩, ⟨"%\x7b:-٠٢\x7d", .range none (some ⟨2, true⟩)⟩] ∧
    Record.WellFormed { kind := .rangeField, raw := .str "%\x7b:-٠٢\x7d",
                        last := some ⟨.int 2, .bool true⟩ } := by
  have h : tokenize "x%\x7b:-٠٢\x7d" = .ok
      [⟨"x", .plain "x"⟩, ⟨"%\x7b:-٠٢\x7d", .range none (some ⟨2, true⟩)⟩] := by
    decide +kernel
  exact ⟨h, (tokens_wellFormed h (List.mem_cons_of_mem _ List.mem_cons_self)).1⟩

end PrintSpec
