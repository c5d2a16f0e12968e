import PrintSpec.Proofs.FieldSpec

/-!
# The form of tokens

What a token can hold follows from the pattern that found it.  No pattern asks for plain text.  The
ends of a range are kept as integers, since a dump may give any integer, but the tokens of an
argument only ever hold natural numbers there: the text of an end is an optional minus and digits,
and the minus is not part of the number.
-/

namespace PrintSpec

/-! ## Ends of a range -/

/-- An end of a range that is left open or is a natural number. -/
def NaturalEnd (bound : Option Bound) : Prop :=
  ∀ b ∈ bound, 0 ≤ b.value

lemma DenotesEnd.naturalEnd {cs : List Char} {bound : Option Bound} (h : DenotesEnd cs bound) :
    NaturalEnd bound := by
  intro b hb
  cases hb
  obtain ⟨n, hn, -⟩ := h
  rw [hn]
  exact Int.natCast_nonneg n

/-! ## Bodies -/

/-- The numbers in a body are natural numbers. -/
def Body.Natural : Body → Prop
  | .range first last => NaturalEnd first ∧ NaturalEnd last
  | _ => True

/-- The literal text of a token, if there is one. -/
def Body.text? : Body → Option String
  | .sigil text | .number text | .block text | .plain text | .invalid text => some text
  | .field _ | .fieldFromEnd _ | .range _ _ => none

/-- The bodies that patterns ask for: never plain text, and the ends of a range are natural
numbers. -/
def Body.Found : Body → Prop
  | .plain _ => False
  | .range first last => NaturalEnd first ∧ NaturalEnd last
  | _ => True

lemma Body.Found.natural {b : Body} (h : b.Found) : b.Natural := by
  cases b with
  | range first last => exact h
  | _ => trivial

lemma Body.Found.kind_ne_plainText {b : Body} (h : b.Found) : b.kind ≠ .plainText := by
  cases b with
  | plain text => exact absurd h not_false
  | _ => simp [Body.kind]

lemma Matcher.fieldBody_cases {cs : List Char} {b : Body} (h : Matcher.fieldBody cs = .ok b) :
    ∃ digits n, Numeral.readDigits digits = .ok n ∧ (b = .field n ∨ b = .fieldFromEnd n) := by
  unfold Matcher.fieldBody at h
  split at h
  · obtain ⟨n, hn, rfl⟩ := map_eq_ok_iff.mp h
    exact ⟨_, n, hn, .inr rfl⟩
  · obtain ⟨n, hn, rfl⟩ := map_eq_ok_iff.mp h
    exact ⟨_, n, hn, .inl rfl⟩

/-- Text between braces is a field, means nothing, or is a range whose two ends are read. -/
lemma Matcher.bracedBody_cases {cs : List Char} {b : Body} (h : Matcher.bracedBody cs = .ok b) :
    Matcher.fieldBody cs = .ok b ∨ b = .invalid (String.ofList cs) ∨
      ∃ first last a c, Matcher.rangeSides? cs = some (first, last) ∧
        Matcher.boundOf first = .ok a ∧ Matcher.boundOf last = .ok c ∧ b = .range a c := by
  unfold Matcher.bracedBody at h
  split at h
  · exact .inl h
  · split at h
    · cases h
      exact .inr (.inl rfl)
    · rename_i first last hsides
      obtain ⟨a, hfirst, h⟩ := bind_eq_ok_iff.mp h
      obtain ⟨c, hlast, h⟩ := bind_eq_ok_iff.mp h
      cases h
      exact .inr (.inr ⟨first, last, a, c, hsides, hfirst, hlast, rfl⟩)

lemma Matcher.found_of_fieldBody {cs : List Char} {b : Body}
    (h : Matcher.fieldBody cs = .ok b) : b.Found := by
  obtain ⟨-, n, -, rfl | rfl⟩ := Matcher.fieldBody_cases h
  · trivial
  · trivial

lemma Matcher.found_of_bracedBody {cs : List Char} {b : Body}
    (h : Matcher.bracedBody cs = .ok b) : b.Found := by
  rcases Matcher.denotes_of_bracedBody h with
    ⟨-, fromEnd, n, -, rfl⟩ | ⟨first, last, a, c, -, hfirst, hlast, rfl⟩ | ⟨-, rfl⟩
  · cases fromEnd <;> trivial
  · exact ⟨hfirst.naturalEnd, hlast.naturalEnd⟩
  · trivial

/-- Every pattern asks for such a body. -/
lemma Matcher.found_of_body {m : Matcher} {payload : List Char} {b : Body}
    (h : m.body payload = .ok b) : b.Found := by
  cases m with
  | escapedAt | escapedPercent | literalNumber | literalBlock =>
    cases h
    trivial
  | bracedField => exact Matcher.found_of_bracedBody h
  | explicitField | implicitField => exact Matcher.found_of_fieldBody h

lemma Piece.natural_of_token {p : Piece} {t : Token} (h : p.token = .ok t) : t.body.Natural := by
  obtain ⟨b, hb, rfl⟩ := map_eq_ok_iff.mp h
  cases p with
  | plain text =>
    cases hb
    trivial
  | found m text payload => exact (Matcher.found_of_body hb).natural

/-- The tokens of arguments hold natural numbers only. -/
lemma Group.natural_of_ofArguments {args : List String} {groups : List Group}
    (h : Group.ofArguments args = .ok groups) :
    ∀ g ∈ groups, ∀ t ∈ g.tokens, t.body.Natural := by
  intro g hg t ht
  obtain ⟨p, hp⟩ := exists_piece_of_ofArguments h hg ht
  exact Piece.natural_of_token hp

end PrintSpec
