import PrintSpec.Document.Yaml.Reader
import PrintSpec.Proofs.Encoding
import PrintSpec.Proofs.Yaml.Plain

/-!
# A plain numeral is read as its number

Without quotes, decimal digits could be taken for something else than a number.  The patterns are
matched by derivatives, and the derivatives by digits settle at once: after its first digit, none of
the patterns that matter changes by a further one.
-/

namespace PrintSpec.Yaml

open PrintSpec.Text PrintSpec.Text.Pattern

/-- A pattern that the characters of a text do not change matches it if it matches no text at all. -/
lemma accepts_of_stable {p : Pattern} {cs : List Char} (h : ∀ c ∈ cs, p.after c = p) :
    p.accepts cs = p.nullable := by
  have hfold : cs.foldl (fun p c => p.after c) p = p := by
    induction cs with
    | nil => rfl
    | cons c cs ih =>
      rw [List.foldl_cons, h c List.mem_cons_self]
      exact ih fun d hd => h d (List.mem_cons_of_mem c hd)
  rw [accepts, hfold]

lemma accepts_cons (p : Pattern) (c : Char) (cs : List Char) :
    p.accepts (c :: cs) = (p.after c).accepts cs := rfl

lemma isDigit_cases {d : Char} (h : d.isDigit) : d = '0' ∨ d = '1' ∨ d = '2' ∨ d = '3' ∨ d = '4' ∨
    d = '5' ∨ d = '6' ∨ d = '7' ∨ d = '8' ∨ d = '9' := by
  have hrange : 48 ≤ d.toNat ∧ d.toNat ≤ 57 := by
    simpa [Char.isDigit_iff_toNat] using h
  have hall : ∀ n < 58, 48 ≤ n → Char.ofNat n ∈ "0123456789".toList := by decide
  simpa using hall d.toNat (by omega) hrange.1

lemma plain_of_isDigit {d : Char} (h : d.isDigit) : Style.isShowable d = true ∧ d ≠ ' ' ∧
    isBreak d = false ∧ Style.startsWithIndicator [d] = false ∧ d ≠ ':' ∧ d ≠ '#' ∧ d ≠ '.' := by
  rcases isDigit_cases h with rfl | rfl | rfl | rfl | rfl | rfl | rfl | rfl | rfl | rfl <;> decide

lemma holdsIndicator_of_isDigit (before : Char) {ds : List Char} (h : ∀ d ∈ ds, d.isDigit) :
    Style.holdsIndicator before ds = false := by
  induction ds generalizing before with
  | nil => rfl
  | cons d ds ih =>
    obtain ⟨-, -, -, -, hcolon, hhash, -⟩ := plain_of_isDigit (h d List.mem_cons_self)
    simp [Style.holdsIndicator, hcolon, hhash, ih d fun e he => h e (List.mem_cons_of_mem d he)]

/-- Digits can be written plain. -/
lemma allowsPlain_of_isDigit {ds : List Char} (h : ∀ d ∈ ds, d.isDigit) :
    Style.allowsPlain ds = true := by
  have hshow : ds.all Style.isShowable = true := by
    rw [List.all_eq_true]
    exact fun d hd => (plain_of_isDigit (h d hd)).1
  have hbreak : ds.any isBreak = false := by
    rw [List.any_eq_false]
    intro d hd
    simp [(plain_of_isDigit (h d hd)).2.2.1]
  have houter : Style.hasOuterSpace ds = false := by
    have hall : ∀ outer : Option Char, (∀ d ∈ outer, d ∈ ds) →
        outer.any (fun d => d == ' ' || isBreak d) = false := by
      intro outer hmem
      cases outer with
      | none => rfl
      | some d =>
        obtain ⟨-, hspace, hbreak, -⟩ := plain_of_isDigit (h d (hmem d rfl))
        simp [hspace, hbreak]
    rw [Style.hasOuterSpace, Bool.or_eq_false_iff]
    exact ⟨hall _ fun d hd => List.mem_of_mem_head? hd, hall _ fun d hd => List.mem_of_getLast? hd⟩
  have hindicator : Style.hasIndicator ds = false := by
    cases ds with
    | nil => rfl
    | cons d ds =>
      obtain ⟨-, -, -, hstarts, -, -, hdot⟩ := plain_of_isDigit (h d List.mem_cons_self)
      have hdash : d ≠ '-' := ne_of_isDigit (h d List.mem_cons_self) (by decide)
      have hseparator : Style.startsLikeSeparator (d :: ds) = false := by
        simp [Style.startsLikeSeparator, hdash, hdot]
      have hstarts' : Style.startsWithIndicator ([d] ++ ds) = false :=
        startsWithIndicator_word (List.cons_ne_nil _ _) rfl hstarts ds
      rw [List.singleton_append] at hstarts'
      rw [Style.hasIndicator, hseparator, hstarts']
      exact holdsIndicator_of_isDigit d fun e he => h e (List.mem_cons_of_mem d he)
  rw [Style.allowsPlain, hshow, hbreak, houter, hindicator]
  rfl

/-- What is left of the pattern for numbers with a fraction after the first digit. -/
def floatRest : Pattern := Tag.floatPattern.after '1'

/-- What is left of the pattern for whole numbers after a first digit other than zero. -/
def intRest : Pattern := Tag.intPattern.after '1'

lemma boolPattern_after {d : Char} (h : d.isDigit) : Tag.boolPattern.after d = .never := by
  rcases isDigit_cases h with rfl | rfl | rfl | rfl | rfl | rfl | rfl | rfl | rfl | rfl <;> rfl

lemma floatPattern_after {d : Char} (h : d.isDigit) : Tag.floatPattern.after d = floatRest := by
  rcases isDigit_cases h with rfl | rfl | rfl | rfl | rfl | rfl | rfl | rfl | rfl | rfl <;> rfl

lemma floatRest_after {d : Char} (h : d.isDigit) : floatRest.after d = floatRest := by
  rcases isDigit_cases h with rfl | rfl | rfl | rfl | rfl | rfl | rfl | rfl | rfl | rfl <;> rfl

lemma intPattern_after {d : Char} (h : d.isDigit) (hzero : d ≠ '0') :
    Tag.intPattern.after d = intRest := by
  rcases isDigit_cases h with rfl | rfl | rfl | rfl | rfl | rfl | rfl | rfl | rfl | rfl
  · exact absurd rfl hzero
  all_goals rfl

lemma intRest_after {d : Char} (h : d.isDigit) : intRest.after d = intRest := by
  rcases isDigit_cases h with rfl | rfl | rfl | rfl | rfl | rfl | rfl | rfl | rfl | rfl <;> rfl

lemma tag_digits {d : Char} {ds : List Char} (hd : d.isDigit) (hzero : d ≠ '0')
    (hds : ∀ c ∈ ds, c.isDigit) : Tag.ofPlain (String.ofList (d :: ds)) = .int := by
  have hbool : Tag.boolPattern.accepts (d :: ds) = false := by
    rw [accepts_cons, boolPattern_after hd, accepts_of_stable fun c _ => rfl]
    rfl
  have hfloat : Tag.floatPattern.accepts (d :: ds) = false := by
    rw [accepts_cons, floatPattern_after hd, accepts_of_stable fun c hc => floatRest_after (hds c hc)]
    rfl
  have hint : Tag.intPattern.accepts (d :: ds) = true := by
    rw [accepts_cons, intPattern_after hd hzero,
      accepts_of_stable fun c hc => intRest_after (hds c hc)]
    rfl
  simp [Tag.ofPlain, Tag.patterns, hbool, hfloat, hint]

/-- The digits of a number hold nothing that has a meaning of its own in a numeral. -/
lemma ofInt_digits {d : Char} {ds : List Char} (hd : d.isDigit) (hzero : d ≠ '0')
    (hds : ∀ c ∈ ds, c.isDigit) {n : Nat} (hn : Numeral.readDigits (d :: ds) = .ok n) :
    ofInt (String.ofList (d :: ds)) = .ok n := by
  have hall : ∀ c ∈ d :: ds, c.isDigit := by
    simpa using ⟨hd, hds⟩
  have hfilter : (d :: ds).filter (· ≠ '_') = d :: ds := by
    rw [List.filter_eq_self]
    intro c hc
    simpa using ne_of_isDigit (hall c hc) (by decide)
  have hsign : Numeral.splitSign (d :: ds) = (false, d :: ds) := by
    have hminus := ne_of_isDigit (c := '-') hd (by decide)
    have hplus := ne_of_isDigit (c := '+') hd (by decide)
    simp [Numeral.splitSign, hminus, hplus]
  have hcolon : ':' ∉ d :: ds := fun hc => ne_of_isDigit (hall ':' hc) (by decide) rfl
  have hnumeral : ofNumeral (d :: ds) = .ok n := by
    rw [List.mem_cons] at hcolon
    simp [ofNumeral, hzero, hcolon, ofDecimal, hn, Except.mapError]
  rw [ofInt, String.toList_ofList, hfilter, hsign]
  simp [hnumeral, Except.map]

/-- **A number within the limit is read back from its plain numeral.** -/
lemma ofPlain_toString {n : Nat} (h : n < 10 ^ Numeral.digitLimit) :
    ofPlain (toString (n : Int)) = .ok (.int n) := by
  have htext : toString (n : Int) = String.ofList (Nat.toDigits 10 n) := rfl
  have hread := Numeral.readDigits_toDigits h
  obtain ⟨d, ds, hdigits, hd⟩ := Numeral.exists_toDigits_cons n
  have hds : ∀ c ∈ ds, c.isDigit := by
    intro c hc
    refine Nat.isDigit_of_mem_toDigits (b := 10) (n := n) (by decide) (by decide) ?_
    rw [hdigits]
    exact List.mem_cons_of_mem d hc
  by_cases hzero : d = '0'
  · subst hzero
    obtain ⟨rfl, rfl⟩ := Numeral.toDigits_of_leading_zero hdigits
    rfl
  · rw [hdigits] at hread
    rw [htext, hdigits, ofPlain, tag_digits hd hzero hds]
    simp only [ofInt_digits hd hzero hds hread, Except.map]

end PrintSpec.Yaml
