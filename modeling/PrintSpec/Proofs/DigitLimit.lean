import PrintSpec.Proofs.Decomposition
import PrintSpec.Proofs.PatternOrder

/-!
# Numbers that are too long

Tokenizing fails only where a number has more digits than can be read.  Which numbers are read is
told by the pieces of an argument: those of fields, of `%` blocks that hold a number or a range, and
of nothing else.  A literal number is not read, however long it is, and neither are the digits in a
block that is refused later.

The pieces are described apart from the reading (`FallsInto`), so that they are there for every
argument, whether its numbers can be read or not.  The numbers of a piece are its runs of digits.
This leaves out how the code takes a sign off, finds the colon of a range and reads the two ends one
after the other, and the reading of each piece is compared with it (`Matcher.failure?_body`).
-/

namespace PrintSpec

open PrintSpec.Text

/-! ## The pieces of an argument -/

/-- How a text falls into pieces, from left to right.  A piece is what the first pattern that
matches there covers, or a run of characters at none of which a pattern matches, up to the next match
or the end. -/
inductive FallsInto : List Char → List Piece → Prop
  | nil : FallsInto [] []
  | found {m : Matcher} {cs text payload rest : List Char} {pieces : List Piece}
      (hcs : cs = text ++ rest) (hfirst : m.IsFirst cs text payload)
      (hrest : FallsInto rest pieces) : FallsInto cs (.found m text payload :: pieces)
  | plain {cs run rest : List Char} {pieces : List Piece} (hcs : cs = run ++ rest) (hne : run ≠ [])
      (hrun : ∀ i < run.length, Matcher.NoneMatches (cs.drop i))
      (hnext : ∀ run', pieces.head? ≠ some (.plain run'))
      (hrest : FallsInto rest pieces) : FallsInto cs (.plain run :: pieces)

/-- A character at which no pattern matches begins a plain piece, or makes the next one longer. -/
lemma FallsInto.consPlain {c : Char} {rest : List Char} {pieces : List Piece}
    (hnone : Matcher.NoneMatches (c :: rest)) (h : FallsInto rest pieces) :
    FallsInto (c :: rest) (Piece.consPlain c pieces) := by
  -- where the next piece is not plain, the character is a piece of its own
  have hone : (∀ run, pieces.head? ≠ some (.plain run)) →
      FallsInto (c :: rest) (Piece.consPlain c pieces) := by
    intro hnext
    rw [Piece.consPlain_of_head?_ne c hnext]
    have hcs : c :: rest = [c] ++ rest := rfl
    refine .plain hcs (by simp) ?_ hnext h
    intro i hi
    obtain rfl : i = 0 := by simpa using hi
    exact hnone
  cases h with
  | nil => exact hone (by simp)
  | found hcs hfirst hrest => exact hone (by simp)
  | @plain _ run rest' pieces hcs hne hrun hnext hrest =>
    have hcs' : c :: rest = c :: run ++ rest' := by rw [hcs, List.cons_append]
    refine .plain hcs' (by simp) ?_ hnext hrest
    rintro (_ | i) hi
    · exact hnone
    · exact hrun i (by simpa using hi)

/-- Cutting finds pieces into which the text falls. -/
lemma fallsInto_cutWith (cs : List Char) : FallsInto cs (cutWith Matcher.all cs) := by
  fun_induction cutWith Matcher.all cs with
  | case1 => exact .nil
  | case2 c rest hnone ih => exact ih.consPlain (Matcher.first?_eq_none_iff.mp hnone)
  | case3 c rest m found hfirst ih =>
    refine .found (List.take_append_drop found.size (c :: rest)).symm ?_ ih
    exact Matcher.isFirst_iff.mpr ⟨found, hfirst, rfl, rfl⟩

/-- A run of characters at which no pattern matches is cut into one plain piece. -/
lemma cutWith_run {run rest : List Char} (hne : run ≠ [])
    (hrun : ∀ i < run.length, Matcher.NoneMatches ((run ++ rest).drop i))
    (hnext : ∀ run', (cutWith Matcher.all rest).head? ≠ some (.plain run')) :
    cutWith Matcher.all (run ++ rest) = .plain run :: cutWith Matcher.all rest := by
  have hfold : cutWith Matcher.all (run ++ rest) =
      run.foldr Piece.consPlain (cutWith Matcher.all rest) := by
    clear hne hnext
    induction run with
    | nil => rfl
    | cons c run ih =>
      have hnone := Matcher.first?_eq_none_iff.mpr (hrun 0 (by simp))
      rw [List.drop_zero, List.cons_append] at hnone
      rw [List.cons_append, cutWith_of_none hnone,
        ih fun i hi => hrun (i + 1) (by simpa using hi), List.foldr_cons]
  rw [hfold, Piece.foldr_consPlain hne hnext]

/-- A text falls into pieces in one way, which is how it is cut. -/
lemma FallsInto.eq_cutWith {cs : List Char} {pieces : List Piece} (h : FallsInto cs pieces) :
    pieces = cutWith Matcher.all cs := by
  induction h with
  | nil => rw [cutWith]
  | @found m cs text payload rest pieces hcs hfirst hrest ih =>
    obtain ⟨found, hfound, htext, rfl⟩ := Matcher.isFirst_iff.mp hfirst
    have hsplit : text ++ cs.drop found.size = text ++ rest := by
      rw [← hcs, htext, List.take_append_drop]
    have hdrop : cs.drop found.size = rest := List.append_cancel_left hsplit
    have hne : cs ≠ [] := by
      rw [hcs]
      exact List.append_ne_nil_of_left_ne_nil hfirst.accepts.ne_nil rest
    rw [cutWith_of_some hne hfound, ← htext, hdrop, ih]
  | plain hcs hne hrun hnext hrest ih =>
    subst hcs
    rw [ih] at hnext ⊢
    exact (cutWith_run hne hrun hnext).symm

/-! ## Failures -/

section

variable {ε α β : Type}

/-- The failure of a reading, if it fails. -/
def failure? : Except ε α → Option ε
  | .error e => some e
  | .ok _ => none

lemma failure?_eq_some_iff {x : Except ε α} {e : ε} : failure? x = some e ↔ x = .error e := by
  cases x <;> simp [failure?]

@[simp] lemma failure?_map (f : α → β) (x : Except ε α) : failure? (x.map f) = failure? x := by
  cases x <;> rfl

/-- What is read second counts only if the first reading succeeds. -/
lemma failure?_bind {x : Except ε α} {f : α → Except ε β} {second : Option ε}
    (h : ∀ a, failure? (f a) = second) : failure? (x >>= f) = (failure? x).or second := by
  cases x with
  | error e => rfl
  | ok a => exact h a

/-- A list fails as the first of its items that fails. -/
lemma failure?_mapM (f : α → Except ε β) (as : List α) :
    failure? (as.mapM f) = as.findSome? fun a => failure? (f a) := by
  induction as with
  | nil => rfl
  | cons a as ih =>
    cases ha : f a with
    | error e => rw [mapM_cons_error ha, List.findSome?_cons, ha]; rfl
    | ok b => rw [mapM_cons_ok ha, failure?_map, ih, List.findSome?_cons, ha]; rfl

end

/-! ## The numbers of a piece -/

/-- The runs of digits in a text, from left to right. -/
def digitRuns (cs : List Char) : List (List Char) :=
  (cs.splitOnP fun c => !isDigit c).filter (· ≠ [])

lemma digitRuns_of_isDigits {digits : List Char} (h : IsDigits digits) :
    digitRuns digits = [digits] := by
  rw [digitRuns, List.splitOnP_eq_singleton (by simpa using h.digits)]
  simpa using h.ne_nil

/-- A character that is not a digit ends a run. -/
lemma digitRuns_append_cons {c : Char} (hc : isDigit c = false) (cs cs' : List Char) :
    digitRuns (cs ++ c :: cs') = digitRuns cs ++ digitRuns cs' := by
  rw [digitRuns, List.splitOnP_append_cons cs cs' (by simp [hc]), List.filter_append]
  rfl

lemma digitRuns_signed (fromEnd : Bool) {digits : List Char} (h : IsDigits digits) :
    digitRuns (signed fromEnd digits) = [digits] := by
  cases fromEnd with
  | false => exact digitRuns_of_isDigits h
  | true =>
    show digitRuns ([] ++ '-' :: digits) = [digits]
    rw [digitRuns_append_cons isDigit_minus, digitRuns_of_isDigits h]
    rfl

namespace Matcher

lemma isFieldSpec_iff {cs : List Char} :
    (isSignedDigits cs || (rangeSides? cs).isSome) ↔ IsFieldSpec cs := by
  rw [Bool.or_eq_true, isSignedDigits_iff, Option.isSome_iff_exists, IsFieldSpec, Prod.exists]
  simp only [rangeSides?_eq_some_iff]

instance : DecidablePred IsFieldSpec := fun _ => decidable_of_iff _ isFieldSpec_iff

/-- The numbers that are read in the payload of a pattern: those of a field or a range.  Literal
text has none, and neither has a block that is no field. -/
def numbers (m : Matcher) (payload : List Char) : List (List Char) :=
  match m with
  | escapedAt | escapedPercent | literalNumber | literalBlock => []
  | bracedField => if IsFieldSpec payload then digitRuns payload else []
  | explicitField | implicitField => digitRuns payload

end Matcher

/-- The numbers that are read in a piece. -/
def Piece.numbers : Piece → List (List Char)
  | .plain _ => []
  | .found m _ payload => m.numbers payload

/-! ## Reading a piece -/

/-- The failure of a number with more digits than the limit allows. -/
def tooLong? (digits : List Char) : Option Numeral.Error :=
  if Numeral.digitLimit < digits.length then some (.tooLong digits.length) else none

lemma failure?_readDigits (digits : List Char) :
    failure? (Numeral.readDigits digits) = tooLong? digits := by
  unfold Numeral.readDigits tooLong?
  split <;> rfl

namespace Matcher

lemma failure?_fieldBody {cs : List Char} (h : IsNumber cs) :
    failure? (fieldBody cs) = (digitRuns cs).findSome? tooLong? := by
  obtain ⟨fromEnd, digits, hdigits, rfl⟩ := isNumber_iff_signed.mp h
  rw [fieldBody_signed fromEnd hdigits, failure?_map, failure?_readDigits,
    digitRuns_signed fromEnd hdigits, List.findSome?_singleton]

lemma failure?_boundOf {cs : List Char} (h : IsSide cs) :
    failure? (boundOf cs) = (digitRuns cs).findSome? tooLong? := by
  rcases h with rfl | h
  · rfl
  · rw [boundOf, if_neg (by simpa using h.ne_nil)]
    obtain ⟨fromEnd, digits, hdigits, rfl⟩ := isNumber_iff_signed.mp h
    rw [Bound.read_signed fromEnd hdigits, failure?_map, failure?_map, failure?_readDigits,
      digitRuns_signed fromEnd hdigits, List.findSome?_singleton]

/-- The two ends of a range are read one after the other, as its numbers stand around the colon. -/
lemma failure?_range {cs first last : List Char} (h : IsRange cs first last) :
    failure? (do return Body.range (← boundOf first) (← boundOf last)) =
      (digitRuns cs).findSome? tooLong? := by
  have hlast : ∀ a, failure? (do return Body.range a (← boundOf last)) =
      (digitRuns last).findSome? tooLong? := by
    intro a
    have hdone : ∀ b, failure? (pure (Body.range a b) : Except Numeral.Error Body) = none :=
      fun _ => rfl
    rw [failure?_bind hdone, failure?_boundOf h.last, Option.or_none]
  rw [failure?_bind hlast, failure?_boundOf h.first, h.eq_append,
    digitRuns_append_cons (by decide), List.findSome?_append]

lemma failure?_bracedBody (cs : List Char) :
    failure? (bracedBody cs) =
      (if IsFieldSpec cs then digitRuns cs else []).findSome? tooLong? := by
  unfold bracedBody
  by_cases hnumber : IsNumber cs
  · have hspec : IsFieldSpec cs := Or.inl hnumber
    rw [if_pos (isSignedDigits_iff.mpr hnumber), if_pos hspec, failure?_fieldBody hnumber]
  · rw [if_neg (mt isSignedDigits_iff.mp hnumber)]
    by_cases hrange : ∃ first last, IsRange cs first last
    · have hspec : IsFieldSpec cs := Or.inr hrange
      rw [if_pos hspec]
      obtain ⟨first, last, hsides⟩ := hrange
      rw [rangeSides?_eq_some_iff.mpr hsides]
      exact failure?_range hsides
    · have hspec : ¬ IsFieldSpec cs := not_or.mpr ⟨hnumber, hrange⟩
      rw [if_neg hspec]
      have hnone : rangeSides? cs = none := by
        rw [Option.eq_none_iff_forall_ne_some]
        rintro ⟨first, last⟩ hsides
        exact hrange ⟨first, last, rangeSides?_eq_some_iff.mp hsides⟩
      rw [hnone]
      rfl

/-- A pattern is read with a failure exactly if one of its numbers is too long, and the failure is
about the first of them. -/
lemma failure?_body {m : Matcher} {text payload : List Char} (h : m.Accepts text payload) :
    failure? (m.body payload) = (m.numbers payload).findSome? tooLong? := by
  cases m with
  | escapedAt | escapedPercent | literalNumber | literalBlock => rfl
  | bracedField => exact failure?_bracedBody payload
  | explicitField | implicitField => exact failure?_fieldBody h.2

end Matcher

lemma Piece.failure?_token_found {m : Matcher} {text payload : List Char}
    (h : m.Accepts text payload) : failure? (Piece.found m text payload).token =
      (Piece.found m text payload).numbers.findSome? tooLong? := by
  rw [Piece.token, failure?_map]
  exact Matcher.failure?_body h

/-- Reading the pieces of an argument fails at the first number that is too long. -/
lemma FallsInto.failure?_mapM_token {cs : List Char} {pieces : List Piece}
    (h : FallsInto cs pieces) :
    failure? (pieces.mapM Piece.token) = (pieces.flatMap Piece.numbers).findSome? tooLong? := by
  rw [failure?_mapM]
  induction h with
  | nil => rfl
  | @found m cs text payload rest pieces hcs hfirst hrest ih =>
    rw [List.flatMap_cons, List.findSome?_append, ← Piece.failure?_token_found hfirst.accepts,
      ← ih, List.findSome?_cons]
    cases failure? (Piece.found m text payload).token <;> rfl
  | plain hcs hne hrun hnext hrest ih => exact ih

/-! ## Tokenizing -/

/-- The first of some numbers with more digits than the limit allows has `count` of them. -/
def FirstTooLong (numbers : List (List Char)) (count : Nat) : Prop :=
  ∃ before digits after, numbers = before ++ digits :: after ∧
    (∀ ds ∈ before, ds.length ≤ Numeral.digitLimit) ∧
      Numeral.digitLimit < digits.length ∧ count = digits.length

lemma tooLong?_eq_some_iff {digits : List Char} {e : Numeral.Error} :
    tooLong? digits = some e ↔
      Numeral.digitLimit < digits.length ∧ e = .tooLong digits.length := by
  rw [tooLong?, Option.ite_none_right_eq_some, Option.some.injEq, eq_comm (a := e)]

lemma tooLong?_eq_none_iff {digits : List Char} :
    tooLong? digits = none ↔ digits.length ≤ Numeral.digitLimit := by
  rw [tooLong?, ite_eq_right_iff]
  simp

lemma tooLong?_isSome_iff {digits : List Char} :
    (tooLong? digits).isSome ↔ Numeral.digitLimit < digits.length := by
  rw [tooLong?]
  split <;> simp_all

lemma findSome?_tooLong?_eq_some_iff {numbers : List (List Char)} {e : Numeral.Error} :
    numbers.findSome? tooLong? = some e ↔
      ∃ count, FirstTooLong numbers count ∧ e = .tooLong count := by
  rw [List.findSome?_eq_some_iff]
  simp only [tooLong?_eq_some_iff, tooLong?_eq_none_iff]
  constructor
  · rintro ⟨before, digits, after, hnumbers, ⟨hlong, rfl⟩, hbefore⟩
    exact ⟨_, ⟨before, digits, after, hnumbers, hbefore, hlong, rfl⟩, rfl⟩
  · rintro ⟨count, ⟨before, digits, after, hnumbers, hbefore, hlong, rfl⟩, rfl⟩
    exact ⟨before, digits, after, hnumbers, ⟨hlong, rfl⟩, hbefore⟩

/-- **Tokenizing fails exactly on numbers that are too long.**  An argument falls into pieces in one
way, and it cannot be tokenized exactly if one of the numbers that are read in the pieces has more
digits than the limit allows.  The failure then tells how many digits the first such number has. -/
theorem tokenize_fails_iff_number_too_long (argument : String) :
    ∃ pieces, FallsInto argument.toList pieces ∧
      (∀ pieces', FallsInto argument.toList pieces' → pieces' = pieces) ∧
      ((∃ e, tokenize argument = .error e) ↔
        ∃ p ∈ pieces, ∃ digits ∈ p.numbers, 4300 < digits.length) ∧
      ∀ e, tokenize argument = .error e ↔
        ∃ count, FirstTooLong (pieces.flatMap Piece.numbers) count ∧ e = .tooLong count ∧
          e.message = "Exceeds the limit (4300 digits) for integer string conversion: value has " ++
            toString count ++
              " digits; use sys.set_int_max_str_digits() to increase the limit" := by
  have hfalls := fallsInto_cutWith argument.toList
  have hfails : ∀ e, tokenize argument = .error e ↔
      ((cutWith Matcher.all argument.toList).flatMap Piece.numbers).findSome? tooLong? =
        some e := by
    intro e
    rw [← hfalls.failure?_mapM_token, failure?_eq_some_iff, tokenize_eq_mapM]
  refine ⟨_, hfalls, fun pieces' h => h.eq_cutWith, ?_, ?_⟩
  · simp only [hfails, ← Option.isSome_iff_exists, List.findSome?_isSome_iff, List.mem_flatMap,
      tooLong?_isSome_iff]
    constructor
    · rintro ⟨digits, ⟨p, hp, hdigits⟩, hlong⟩
      exact ⟨p, hp, digits, hdigits, hlong⟩
    · rintro ⟨p, hp, digits, hdigits, hlong⟩
      exact ⟨digits, ⟨p, hp, hdigits⟩, hlong⟩
  · intro e
    rw [hfails, findSome?_tooLong?_eq_some_iff]
    constructor
    · rintro ⟨count, hfirst, rfl⟩
      exact ⟨count, hfirst, rfl, rfl⟩
    · rintro ⟨count, hfirst, he, -⟩
      exact ⟨count, hfirst, he⟩

/-- One digit more than the limit: as a field they cannot be read, as a literal number they are not
read. -/
theorem tokenize_fails_at_one_digit_more :
    ∃ digits : List Char, digits.length = 4301 ∧
      tokenize (String.ofList ('%' :: digits)) = .error (.tooLong 4301) ∧
      ∃ tokens, tokenize (String.ofList ('@' :: digits)) = .ok tokens := by
  obtain ⟨digits, hdigits, hlength⟩ : ∃ digits, IsDigits digits ∧ digits.length = 4301 := by
    have hlength : (List.replicate 4301 '7').length = 4301 := List.length_replicate
    refine ⟨List.replicate 4301 '7', ⟨List.ne_nil_of_length_eq_add_one hlength, ?_⟩, hlength⟩
    intro c hc
    rw [List.eq_of_mem_replicate hc]
    decide
  have hnumber : Matcher.IsNumber digits :=
    Matcher.isNumber_iff_signed.mpr ⟨false, digits, hdigits, rfl⟩
  refine ⟨digits, hlength, ?_, ?_⟩
  · obtain ⟨pieces, hfalls, -, -, hfails⟩ :=
      tokenize_fails_iff_number_too_long (String.ofList ('%' :: digits))
    have haccepts : Matcher.explicitField.Accepts ('%' :: digits) digits := ⟨rfl, hnumber⟩
    rw [String.toList_ofList] at hfalls
    rw [hfalls.eq_cutWith, cutWith_of_accepts haccepts] at hfails
    refine (hfails _).mpr ⟨4301, ⟨[], digits, [], ?_, by simp, ?_, hlength.symm⟩, rfl, rfl⟩
    · simpa [Piece.numbers, Matcher.numbers] using digitRuns_of_isDigits hdigits
    · rw [hlength]
      decide
  · obtain ⟨pieces, hfalls, -, hfails, -⟩ :=
      tokenize_fails_iff_number_too_long (String.ofList ('@' :: digits))
    have haccepts : Matcher.literalNumber.Accepts ('@' :: digits) digits := ⟨rfl, hnumber⟩
    rw [String.toList_ofList] at hfalls
    rw [hfalls.eq_cutWith, cutWith_of_accepts haccepts] at hfails
    cases htokens : tokenize (String.ofList ('@' :: digits)) with
    | ok tokens => exact ⟨tokens, rfl⟩
    | error e => simpa [Piece.numbers, Matcher.numbers] using hfails.mp ⟨e, htokens⟩

end PrintSpec
