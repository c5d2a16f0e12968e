import PrintSpec.Proofs.Meaning
import PrintSpec.Proofs.PatternOrder

/-!
# Every text can be written as a literal

An argument that prints a given text as it is doubles every sigil, puts an `@` before every digit and
keeps all other characters (`verbatim`).  It is cut into pieces that stand for text only, and these
make up the given text, so it compiles to string literals and prints the same for every record.

What is written for a character ends where the next one begins: `StandsFor.verbatim_cons` is the step
of the argument.  It needs that what follows does not begin with a digit, because a digit would make
an escaped one longer and a minus a field, and nothing that is written begins with a digit.
-/

namespace PrintSpec

open PrintSpec.Text PrintSpec.Awk

/-! ## Writing a text -/

/-- How a character is written to stand for itself. -/
def verbatimChar (c : Char) : List Char :=
  if c = '@' ∨ c = '%' then [c, c] else if isDigit c then ['@', c] else [c]

/-- The argument that prints a text as it is. -/
def verbatim (text : String) : String :=
  String.ofList (text.toList.flatMap verbatimChar)

/-- Text that does not begin with a digit. -/
def NoDigitFirst (cs : List Char) : Prop :=
  ∀ c ∈ cs.head?, isDigit c = false

lemma NoDigitFirst.takeWhile {cs : List Char} (h : NoDigitFirst cs) : cs.takeWhile isDigit = [] :=
  (span_append (List.forall_mem_nil _) h).1

lemma noDigitFirst_cons {c : Char} {cs : List Char} :
    NoDigitFirst (c :: cs) ↔ isDigit c = false := by
  simp [NoDigitFirst]

lemma noDigitFirst_verbatimChar (cs : List Char) : NoDigitFirst (cs.flatMap verbatimChar) := by
  cases cs with
  | nil => simp [NoDigitFirst]
  | cons c cs =>
    rw [List.flatMap_cons, verbatimChar]
    split_ifs with hsigil hdigit
    · rcases hsigil with rfl | rfl
      · exact noDigitFirst_cons.mpr (by decide)
      · exact noDigitFirst_cons.mpr (by decide)
    · exact noDigitFirst_cons.mpr (by decide)
    · exact noDigitFirst_cons.mpr (by simpa using hdigit)

/-! ## Pieces that stand for text -/

/-- The text that a piece stands for if it is a doubled sigil, a literal number or plain text. -/
def Piece.literal? : Piece → Option (List Char)
  | .plain text => some text
  | .found .escapedAt _ payload | .found .escapedPercent _ payload
  | .found .literalNumber _ payload => some payload
  | .found _ _ _ => none

/-- The argument is cut into literal pieces, and these make up the text. -/
def StandsFor (cs text : List Char) : Prop :=
  ∃ texts, List.Forall₂ (fun p s => Piece.literal? p = some s) (cutWith Matcher.all cs) texts ∧
    texts.flatten = text

lemma standsFor_nil : StandsFor [] [] := by
  refine ⟨[], ?_, rfl⟩
  rw [cutWith]
  exact .nil

/-- A literal pattern at the start of an argument stands for its payload. -/
lemma StandsFor.found {m : Matcher} {c : Char} {cs text : List Char} {found : Match}
    (hfind : m.find (c :: cs) = some found)
    (hliteral : ∀ covered, (Piece.found m covered found.payload).literal? = some found.payload)
    (h : StandsFor ((c :: cs).drop found.size) text) :
    StandsFor (c :: cs) (found.payload ++ text) := by
  obtain ⟨texts, htexts, rfl⟩ := h
  refine ⟨found.payload :: texts, ?_, List.flatten_cons⟩
  rw [cutWith, Matcher.first?_eq_some_iff.mpr ⟨m.mem_all, hfind⟩]
  exact .cons (hliteral _) htexts

/-- A character at which no pattern is found stands for itself, as part of the plain text after it
if there is some. -/
lemma StandsFor.plain {c : Char} {cs text : List Char}
    (hnone : Matcher.first? Matcher.all (c :: cs) = none) (h : StandsFor cs text) :
    StandsFor (c :: cs) (c :: text) := by
  obtain ⟨texts, htexts, rfl⟩ := h
  rw [StandsFor, cutWith, hnone]
  -- which texts there are depends on whether the next piece takes the character in
  generalize cutWith Matcher.all cs = pieces at htexts
  cases htexts with
  | nil => exact ⟨[[c]], .cons rfl .nil, rfl⟩
  | @cons p s pieces texts hp htail =>
    cases p with
    | plain run =>
      obtain rfl : run = s := Option.some.inj hp
      exact ⟨(c :: run) :: texts, .cons rfl htail, rfl⟩
    | found m covered payload => exact ⟨[c] :: s :: texts, .cons rfl (.cons hp htail), rfl⟩

/-! ## What is written stands for the text -/

namespace Matcher

/-- A digit alone is a number if no other digit follows it. -/
lemma signedDigits_of_isDigit {d : Char} {rest : List Char} (hd : isDigit d)
    (hrest : NoDigitFirst rest) : signedDigits (d :: rest) = [d] := by
  have hminus : (d :: rest).head? ≠ some '-' := by
    intro hhead
    obtain rfl : d = '-' := by simpa using hhead
    simp at hd
  rw [signedDigits_of_ne_minus hminus, List.takeWhile_cons_of_pos hd, hrest.takeWhile]

/-- No number begins with another character, not even with a minus, if no digit follows it. -/
lemma signedDigits_of_not_isDigit {c : Char} {rest : List Char} (hc : ¬ isDigit c)
    (hrest : NoDigitFirst rest) : signedDigits (c :: rest) = [] := by
  by_cases hminus : c = '-'
  · rw [hminus, signedDigits_of_minus, hrest.takeWhile]
    rfl
  · rw [signedDigits_of_ne_minus (by simpa using hminus), List.takeWhile_cons_of_neg hc]

/-- No pattern is found at a character that is kept as it is. -/
lemma first?_of_kept {c : Char} {rest : List Char} (hsigil : ¬ (c = '@' ∨ c = '%'))
    (hc : ¬ isDigit c) (hrest : NoDigitFirst rest) : first? all (c :: rest) = none := by
  rw [not_or] at hsigil
  rw [Option.eq_none_iff_forall_ne_some]
  rintro ⟨m, found⟩ hfirst
  obtain ⟨-, hfind⟩ := first?_eq_some_iff.mp hfirst
  -- the opening leaves only the pattern for bare numbers, and there is no number here
  have hopening : ofOpening (c :: rest) = implicitField :=
    ofOpening_other (by simpa using hsigil.1) (by simpa using hsigil.2)
  obtain rfl : m = implicitField := (eq_ofOpening_of_find hfind).trans hopening
  simp [find, findNumber, signedDigits_of_not_isDigit hc hrest] at hfind

end Matcher

/-- What is written for a character stands for it, in front of anything that does not begin with a
digit. -/
lemma StandsFor.verbatim_cons {rest text : List Char} (h : StandsFor rest text)
    (hrest : NoDigitFirst rest) (c : Char) :
    StandsFor (verbatimChar c ++ rest) (c :: text) := by
  unfold verbatimChar
  split_ifs with hsigil hdigit
  · rcases hsigil with rfl | rfl
    · have hfind : Matcher.escapedAt.find ('@' :: '@' :: rest) = some ⟨2, ['@'], Nat.two_pos⟩ := rfl
      exact StandsFor.found hfind (fun _ => rfl) h
    · have hfind : Matcher.escapedPercent.find ('%' :: '%' :: rest) =
          some ⟨2, ['%'], Nat.two_pos⟩ := rfl
      exact StandsFor.found hfind (fun _ => rfl) h
  · have hfind : Matcher.literalNumber.find ('@' :: c :: rest) = some ⟨2, [c], Nat.two_pos⟩ := by
      simp [Matcher.find, Matcher.findSigilNumber, Matcher.findNumber,
        Matcher.signedDigits_of_isDigit hdigit hrest]
    exact StandsFor.found hfind (fun _ => rfl) h
  · exact h.plain (Matcher.first?_of_kept hsigil hdigit hrest)

/-- The written form of a text stands for the text. -/
lemma standsFor_verbatim (cs : List Char) : StandsFor (cs.flatMap verbatimChar) cs := by
  induction cs with
  | nil => exact standsFor_nil
  | cons c cs ih => exact ih.verbatim_cons (noDigitFirst_verbatimChar cs) c

/-! ## Tokens that stand for text -/

/-- A token that asks for a text, and is neither a block nor invalid. -/
def Body.Literal (b : Body) (text : String) : Prop :=
  b = .sigil text ∨ b = .number text ∨ b = .plain text

lemma Piece.exists_token_of_literal? {p : Piece} {text : List Char} (h : p.literal? = some text) :
    ∃ t, p.token = .ok t ∧ t.body.Literal (String.ofList text) := by
  cases p with
  | plain run =>
    obtain rfl : run = text := Option.some.inj h
    exact ⟨_, rfl, Or.inr (Or.inr rfl)⟩
  | found m covered payload =>
    cases m with
    | escapedAt | escapedPercent =>
      obtain rfl : payload = text := Option.some.inj h
      exact ⟨_, rfl, Or.inl rfl⟩
    | literalNumber =>
      obtain rfl : payload = text := Option.some.inj h
      exact ⟨_, rfl, Or.inr (Or.inl rfl)⟩
    | literalBlock | bracedField | explicitField | implicitField => cases h

/-- The literal pieces of an argument are read as literal tokens. -/
lemma StandsFor.exists_tokens {cs text : List Char} (h : StandsFor cs text) :
    ∃ tokens texts, (cutWith Matcher.all cs).mapM Piece.token = .ok tokens ∧
      List.Forall₂ (fun t s => t.body.Literal s) tokens texts ∧
        String.join texts = String.ofList text := by
  obtain ⟨texts, htexts, rfl⟩ := h
  generalize cutWith Matcher.all cs = pieces at htexts
  induction htexts with
  | nil => exact ⟨[], [], rfl, .nil, rfl⟩
  | @cons p s pieces texts hp htail ih =>
    obtain ⟨t, ht, hliteral⟩ := Piece.exists_token_of_literal? hp
    obtain ⟨tokens, strings, htokens, hall, hjoin⟩ := ih
    refine ⟨t :: tokens, String.ofList s :: strings, ?_, .cons hliteral hall, ?_⟩
    · rw [mapM_cons_ok ht, htokens]
      rfl
    · rw [String.join_cons, hjoin, List.flatten_cons, String.ofList_append]

/-! ## Compiling and printing -/

namespace Body.Literal

variable {b : Body} {text : String} (h : b.Literal text)

include h

lemma kind_mem : b.kind ∈ [Kind.literalEscapedChar, .literalNumber, .plainText] := by
  rcases h with rfl | rfl | rfl <;> simp [Body.kind]

lemma text?_eq : b.text? = some text := by
  rcases h with rfl | rfl | rfl <;> rfl

lemma natural : b.Natural := by
  rcases h with rfl | rfl | rfl <;> trivial

lemma kind_ne_invalidField : b.kind ≠ .invalidField := by
  rcases h with rfl | rfl | rfl <;> simp [Body.kind]

/-- The fragment of a literal token is a string literal. -/
lemma render_termOf : (termOf b).render = quote text := by
  rcases h with rfl | rfl | rfl <;> simp [termOf, Term.render, Expr.renderAt, Expr.level]

lemma denote_eq (r : InputRecord) (ofs : String) : denote r ofs b = text := by
  rcases h with rfl | rfl | rfl <;> rfl

end Body.Literal

section

variable {tokens : List Token} {texts : List String}
  (h : List.Forall₂ (fun t s => t.body.Literal s) tokens texts)

include h

/-- Literal tokens are mapped as their texts are. -/
lemma map_body_eq {α : Type} {f : Body → α} {g : String → α}
    (hfg : ∀ b s, b.Literal s → f b = g s) : (tokens.map fun t => f t.body) = texts.map g := by
  rw [← List.forall₂_eq_eq_eq, List.forall₂_map_left_iff, List.forall₂_map_right_iff]
  exact h.imp fun t s hliteral => hfg t.body s hliteral

lemma forall_mem_body {P : Body → Prop} (hP : ∀ b s, b.Literal s → P b) :
    ∀ t ∈ tokens, P t.body := by
  have hboth := h.imp fun t s hliteral => And.intro (hP t.body s hliteral) hliteral
  exact ((List.forall₂_and_left _ _).mp hboth).1

end

/-- **Every text can be written as a literal.**  The written form of a text has only doubled sigils,
literal numbers and plain text as its tokens, and their texts put together are the text.  It compiles,
to one string literal for each token and to no field, and awk prints the text for every record. -/
theorem verbatim_prints_text (text : String) :
    ∃ tokens texts, tokenize (verbatim text) = .ok tokens ∧
      (∀ t ∈ tokens, t.body.kind ∈ [Kind.literalEscapedChar, .literalNumber, .plainText]) ∧
      (tokens.map fun t => t.body.text?) = texts.map some ∧ String.join texts = text ∧
      ∃ p, Program.ofGroups [⟨verbatim text, tokens⟩] = .ok p ∧ p.groups = [texts.map quote] ∧
        ∀ (r : InputRecord) (ofs ors : String) (rounds : Nat), r.fields.length ≤ rounds →
          printed? r ofs ors rounds p.render = some (text ++ ors) := by
  obtain ⟨tokens, texts, htokens, hliteral, hjoin⟩ := (standsFor_verbatim text.toList).exists_tokens
  rw [String.ofList_toList] at hjoin
  have htokenize : tokenize (verbatim text) = .ok tokens := by
    rw [tokenize_eq_mapM, verbatim, String.toList_ofList]
    exact htokens
  have hnatural : ∀ g ∈ [Group.mk (verbatim text) tokens], ∀ t ∈ g.tokens, t.body.Natural := by
    simpa using forall_mem_body hliteral fun b s => Body.Literal.natural
  have hvalid : AllValid [⟨verbatim text, tokens⟩] := by
    simpa [AllValid] using forall_mem_body hliteral fun b s => Body.Literal.kind_ne_invalidField
  refine ⟨tokens, texts, htokenize, forall_mem_body hliteral fun b s => Body.Literal.kind_mem,
    map_body_eq hliteral fun b s => Body.Literal.text?_eq, hjoin, compiled _,
    (ofGroups_eq_ok_iff hnatural).mpr ⟨hvalid, rfl⟩, ?_, ?_⟩
  · have hrender := map_body_eq hliteral fun b s => Body.Literal.render_termOf
    simpa [compiled, groupTerms, Function.comp_def] using hrender
  · intro r ofs ors rounds hrounds
    have hdenote := map_body_eq hliteral fun b s hb => hb.denote_eq r ofs
    rw [printed?, lastLine_render_compiled, readAction?_action,
      Option.bind_some, print?_closed ofs hrounds ors hnatural]
    simp [Group.denote, hdenote, hjoin]

-- a digit after a minus, and both sigils before a brace
example : verbatim "-7@\x7b%\x7b" = "-@7@@\x7b%%\x7b" := by
  decide

end PrintSpec
