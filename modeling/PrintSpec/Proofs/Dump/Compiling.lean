import PrintSpec.Proofs.Dump.Records

/-!
# Compiling records of tokens

A record is compiled from values of any type, and its text may hold halves of characters, so it is
compiled to code points and may fail where a token cannot.  The record of a token has none of this:
its texts are whole and its numbers can be written.  So it compiles as the token does, to the same
text, and fails only where the token does (`Record.compile_toRecord`).
-/

namespace PrintSpec

open PrintSpec.Awk

/-! ## Values that are written -/

lemma quoteCodes_codes (s : String) : quoteCodes (Text.codes s) = Text.codes (quote s) := by
  have hescape : ∀ c : Char, escapeCode c.toNat = (escapeChar c).map Char.toNat := by
    intro c
    rw [escapeCode, if_pos (isValidChar_toNat c), Char.ofNat_toNat]
  simp [quoteCodes, Text.codes, quote, List.flatMap_map, List.map_flatMap, hescape]

/-- A number within the limit is written by its digits. -/
lemma Record.written_natural {n : Nat} (hn : n < 10 ^ Numeral.digitLimit) :
    Record.written (.int n) = .ok (Text.codes (toString n)) := by
  have hwritable : Numeral.isWritable (n : Int) = true := Numeral.isWritable_iff.mpr hn
  simp only [Record.written, Value.shown?, Value.codes?, Value.isShowable, Scalar.isShowable,
    hwritable, if_true]
  rfl

lemma Record.boundOperand_natural {n : Nat} (hn : n < 10 ^ Numeral.digitLimit) (fromEnd : Bool)
    (missing : String) :
    Record.boundOperand (some ⟨.int n, .bool fromEnd⟩) missing =
      .ok (Text.codes (Fragment.operand (toString n) fromEnd)) := by
  rw [Record.boundOperand, Record.written_natural hn]
  cases fromEnd <;> simp [Except.map, Fragment.operand, Value.isTruthy]

/-! ## Kinds -/

namespace Record

variable {r : Record} {argument : Value}

lemma compile_text {text : String} (htext : r.text = .str text)
    (hkind : r.kind ∈ [.literalEscapedChar, .literalNumber, .literalBlock, .plainText]) :
    r.compile argument = .ok (.str (Fragment.text text).render) := by
  have hcodes : r.text.codes? = some (Text.codes text) := by rw [htext, Value.codes?]
  have hliteral : r.compile argument = .ok (.ofCodes (quoteCodes (Text.codes text))) := by
    simp only [List.mem_cons, List.not_mem_nil, or_false] at hkind
    rcases hkind with hkind | hkind | hkind | hkind <;> simp only [compile, hkind, hcodes]
  rw [hliteral, quoteCodes_codes, ofCodes_codes, Fragment.render]

lemma compile_field {n : Nat} (hn : n < 10 ^ Numeral.digitLimit) (hnumber : r.number = .int n)
    (hkind : r.kind = .fieldPositive) :
    r.compile argument = .ok (.str (Fragment.field (toString n)).render) := by
  simp only [compile, hkind, hnumber, written_natural hn, bind, Except.bind, pure, Except.pure,
    ← codes_append, ofCodes_codes, Fragment.render]

lemma compile_fieldFromEnd {n : Nat} (hn : n < 10 ^ Numeral.digitLimit) (hnumber : r.number = .int n)
    (hkind : r.kind = .fieldNegative) :
    r.compile argument = .ok (.str (Fragment.fieldFromEnd (toString n)).render) := by
  simp only [compile, hkind, hnumber, written_natural hn, bind, Except.bind, pure, Except.pure,
    ← codes_append, ofCodes_codes, Fragment.render]

lemma compile_range {first last : String} (hkind : r.kind = .rangeField)
    (hfirst : boundOperand r.first Fragment.openFirst = .ok (Text.codes first))
    (hlast : boundOperand r.last Fragment.openLast = .ok (Text.codes last)) :
    r.compile argument = .ok (.str (Fragment.range first last).render) := by
  simp only [compile, hkind, hfirst, hlast, bind, Except.bind, pure, Except.pure, ← codes_append,
    ofCodes_codes, Fragment.render]

lemma compile_invalid (hkind : r.kind = .invalidField) :
    r.compile argument = .error (.ofInvalid r.raw argument) := by
  simp only [compile, hkind]

end Record

/-! ## Tokens -/

lemma CompileError.ofInvalid_eq (e : InvalidRecord) :
    CompileError.ofInvalid e.specifier e.argument = .invalidField e := by
  obtain ⟨specifier, argument, message, hmessage⟩ := e
  unfold CompileError.ofInvalid
  split
  · rename_i message' hmessage'
    obtain rfl : message = message' := Option.some.inj (hmessage.symm.trans hmessage')
    rfl
  · rename_i hnone
    cases hmessage.symm.trans hnone

/-- The failure of a token as that of its record: all values are texts, and the message is the
same. -/
def InvalidField.toRecord (e : InvalidField) : InvalidRecord where
  specifier := .str e.specifier
  argument := .str e.argument
  message := Text.codes e.message
  message_eq := by
    have htruthy : (Value.str e.argument).isTruthy = (e.argument != "") := rfl
    have hequal : (Value.str e.argument).equal (.str e.specifier) = (e.argument == e.specifier) := by
      simp [Value.equal, Value.isNan, Value.same, Value.sameKey, Value.asWhole]
    have hshown : (Value.str e.specifier).shown? = some (Text.codes e.specifier) := rfl
    have hquoted : (Value.str e.argument).quoted = Text.quoted e.argument := rfl
    have hshowable : (Value.str e.argument).isShowable = true := rfl
    rw [invalidMessage?, htruthy, hequal, hshown, hquoted, hshowable, message]
    by_cases hplace : e.argument ≠ "" ∧ e.argument ≠ e.specifier
    · simp [hplace]
    · have hempty : Text.codes "" = [] := rfl
      simp [hplace, hempty]

lemma Bound.boundOperand_toRecord {bound : Option Bound}
    (h : ∀ b ∈ bound.map Bound.toRecord, b.Storable) (missing : String) :
    Record.boundOperand (bound.map Bound.toRecord) missing =
      .ok (Text.codes (Fragment.boundOperand bound missing)) := by
  cases bound with
  | none => rfl
  | some b =>
    obtain ⟨n, hn, hvalue⟩ := (h b.toRecord rfl).value
    have hb : b.value = n := Scalar.int.inj (Value.scalar.inj hvalue)
    rw [Option.map_some, Bound.toRecord, hb, Record.boundOperand_natural hn, Fragment.boundOperand, hb]
    rfl

/-- **The record of a token compiles as the token does.** -/
lemma Record.compile_toRecord {t : Token} (h : t.toRecord.Storable Value.IsWhole)
    (argument : String) :
    t.toRecord.compile (.str argument) = ((compileToken argument t).map Scalar.str).mapError
      fun e => .invalidField e.toRecord := by
  obtain ⟨raw, body⟩ := t
  cases body with
  | sigil text | number text | block text | plain text =>
    exact compile_text rfl (by simp [Token.toRecord, Body.kind])
  | field n =>
    exact compile_field (h.number.resolve_left (by simp [Token.toRecord])).lt rfl rfl
  | fieldFromEnd n =>
    exact compile_fieldFromEnd (h.number.resolve_left (by simp [Token.toRecord])).lt rfl rfl
  | range first last =>
    exact compile_range rfl (Bound.boundOperand_toRecord h.first _)
      (Bound.boundOperand_toRecord h.last _)
  | invalid text =>
    rw [compile_invalid rfl]
    exact congrArg Except.error (CompileError.ofInvalid_eq (InvalidField.toRecord ⟨raw, argument⟩))

end PrintSpec
