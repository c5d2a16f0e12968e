import PrintSpec.Proofs.FieldSpec

/-!
# The order of the patterns

The patterns are tried one after the other, and the first one that is found makes the token.  Which
of them comes first does not matter, because no two are ever found at the same place: the first two
characters of a text leave one pattern only (`Matcher.ofOpening`).  So a list of patterns finds what
any one of its patterns finds (`Matcher.first?_eq_some_iff`), and a text is cut in the same way under
all lists that hold the same patterns.
-/

namespace PrintSpec

namespace Matcher

/-! ## The pattern of an opening -/

/-- The only pattern that can be found at the start of a text, told by its first two characters. -/
def ofOpening : List Char → Matcher
  | '@' :: '@' :: _ => escapedAt
  | '@' :: '{' :: _ => literalBlock
  | '@' :: _ => literalNumber
  | '%' :: '%' :: _ => escapedPercent
  | '%' :: '{' :: _ => bracedField
  | '%' :: _ => explicitField
  | _ => implicitField

lemma ofOpening_at {cs : List Char} (hsigil : cs.head? ≠ some '@') (hbrace : cs.head? ≠ some '{') :
    ofOpening ('@' :: cs) = literalNumber := by
  unfold ofOpening
  split <;> simp_all

lemma ofOpening_percent {cs : List Char} (hsigil : cs.head? ≠ some '%')
    (hbrace : cs.head? ≠ some '{') : ofOpening ('%' :: cs) = explicitField := by
  unfold ofOpening
  split <;> simp_all

lemma ofOpening_other {cs : List Char} (hat : cs.head? ≠ some '@')
    (hpercent : cs.head? ≠ some '%') : ofOpening cs = implicitField := by
  unfold ofOpening
  split <;> simp_all

/-- A number begins with neither a sigil nor a brace, whatever follows it. -/
lemma IsNumber.head?_append_ne {number : List Char} (h : IsNumber number) (rest : List Char) :
    (number ++ rest).head? ≠ some '@' ∧ (number ++ rest).head? ≠ some '%' ∧
      (number ++ rest).head? ≠ some '{' := by
  obtain ⟨d, ds, rfl⟩ := List.exists_cons_of_ne_nil h.ne_nil
  have hne : ∀ c, Text.isDigit c = false → c ≠ '-' → (d :: ds ++ rest).head? ≠ some c := by
    intro c hc hminus hhead
    obtain rfl : d = c := by simpa using hhead
    exact h.not_mem hc hminus List.mem_cons_self
  exact ⟨hne _ (by decide) (by decide), hne _ (by decide) (by decide),
    hne _ (by decide) (by decide)⟩

/-- Where a text begins with a text of a pattern, its opening tells the pattern. -/
lemma eq_ofOpening_of_accepts {m : Matcher} {cs text payload : List Char} (htext : text <+: cs)
    (h : m.Accepts text payload) : m = ofOpening cs := by
  obtain ⟨rest, rfl⟩ := htext
  cases m with
  | escapedAt | escapedPercent | literalBlock | bracedField =>
    obtain ⟨rfl, -⟩ := h
    rfl
  | literalNumber =>
    obtain ⟨rfl, hnumber⟩ := h
    obtain ⟨hat, -, hbrace⟩ := hnumber.head?_append_ne rest
    exact (ofOpening_at hat hbrace).symm
  | explicitField =>
    obtain ⟨rfl, hnumber⟩ := h
    obtain ⟨-, hpercent, hbrace⟩ := hnumber.head?_append_ne rest
    exact (ofOpening_percent hpercent hbrace).symm
  | implicitField =>
    obtain ⟨rfl, hnumber⟩ := h
    obtain ⟨hat, hpercent, -⟩ := hnumber.head?_append_ne rest
    exact (ofOpening_other hat hpercent).symm

lemma eq_ofOpening_of_find {m : Matcher} {cs : List Char} {found : Match}
    (h : m.find cs = some found) : m = ofOpening cs :=
  eq_ofOpening_of_accepts (List.take_prefix found.size cs) (m.recognises.sound cs found h)

/-- Two patterns that are found at the same place are the same. -/
lemma eq_of_find {m m' : Matcher} {cs : List Char} {found found' : Match}
    (h : m.find cs = some found) (h' : m'.find cs = some found') : m = m' :=
  (eq_ofOpening_of_find h).trans (eq_ofOpening_of_find h').symm

/-- At most one pattern of the list is found at the start of a text. -/
lemma pairwise_find_eq_none (cs : List Char) :
    all.Pairwise fun m m' => m.find cs = none ∨ m'.find cs = none := by
  have hdistinct : all.Pairwise (· ≠ ·) := by decide
  refine hdistinct.imp fun {m m'} hne => ?_
  cases hfound : m.find cs with
  | none => exact Or.inl rfl
  | some found =>
    refine Or.inr (Option.eq_none_iff_forall_ne_some.mpr fun found' hfound' => ?_)
    exact hne (eq_of_find hfound hfound')

/-! ## Searching through a list of patterns -/

lemma mem_all (m : Matcher) : m ∈ all := by
  cases m <;> decide

/-- A list of patterns finds exactly what one of its patterns finds. -/
lemma first?_eq_some_iff {matchers : List Matcher} {cs : List Char} {m : Matcher} {found : Match} :
    first? matchers cs = some (m, found) ↔ m ∈ matchers ∧ m.find cs = some found := by
  have hfound : ∀ {m found}, first? matchers cs = some (m, found) →
      m ∈ matchers ∧ m.find cs = some found := by
    intro m found h
    obtain ⟨m', hmem, hmap⟩ := List.exists_of_findSome?_eq_some h
    obtain ⟨found', hfind, heq⟩ := Option.map_eq_some_iff.mp hmap
    obtain ⟨rfl, rfl⟩ := Prod.mk.inj heq
    exact ⟨hmem, hfind⟩
  refine ⟨hfound, ?_⟩
  rintro ⟨hmem, hfind⟩
  cases hfirst : first? matchers cs with
  | none =>
    rw [first?, List.findSome?_eq_none_iff] at hfirst
    simpa [hfind] using hfirst m hmem
  | some first =>
    -- another pattern may come before `m` in the list, but then it is not found
    obtain ⟨m', found'⟩ := first
    obtain ⟨-, hfind'⟩ := hfound hfirst
    obtain rfl := eq_of_find hfind hfind'
    rw [hfind, Option.some.injEq] at hfind'
    rw [hfind']

/-- Only the patterns in a list count, and not in which order or how often they are in it. -/
lemma first?_congr {matchers matchers' : List Matcher} (h : ∀ m, m ∈ matchers ↔ m ∈ matchers')
    (cs : List Char) : first? matchers cs = first? matchers' cs := by
  apply Option.ext
  rintro ⟨m, found⟩
  rw [first?_eq_some_iff, first?_eq_some_iff, h m]

lemma Accepts.ne_nil {m : Matcher} {text payload : List Char} (h : m.Accepts text payload) :
    text ≠ [] := by
  cases m with
  | escapedAt | escapedPercent | literalBlock | bracedField | literalNumber | explicitField =>
    obtain ⟨rfl, -⟩ := h
    simp
  | implicitField =>
    obtain ⟨rfl, hnumber⟩ := h
    exact hnumber.ne_nil

end Matcher

/-! ## Cutting under a list of patterns -/

/-- A text is cut in the same way if the same pattern is found first at every place. -/
lemma cutWith_congr {matchers matchers' : List Matcher}
    (h : ∀ cs, Matcher.first? matchers cs = Matcher.first? matchers' cs) (cs : List Char) :
    cutWith matchers cs = cutWith matchers' cs := by
  fun_induction cutWith matchers cs with
  | case1 => rw [cutWith]
  | case2 c rest hnone ih =>
    rw [h] at hnone
    rw [cutWith_of_none hnone, ih]
  | case3 c rest m found hfirst ih =>
    rw [h] at hfirst
    rw [cutWith_of_some (by simp) hfirst, ih]

/-- A text of a pattern is cut into one piece: no longer match can begin where it begins. -/
lemma cutWith_of_accepts {m : Matcher} {text payload : List Char} (h : m.Accepts text payload) :
    cutWith Matcher.all text = [.found m text payload] := by
  have hmatches : m.Matches text text payload :=
    ⟨List.prefix_refl text, h, fun text' _ htext' _ => htext'.length_le⟩
  obtain ⟨found, hfound, htake, rfl⟩ := Matcher.matches_iff.mp hmatches
  have hdrop : text.drop found.size = [] := by
    rw [List.drop_eq_nil_iff]
    simpa using congrArg List.length htake
  rw [cutWith_of_some h.ne_nil (Matcher.first?_eq_some_iff.mpr ⟨m.mem_all, hfound⟩), ← htake, hdrop,
    cutWith]

/-- An argument that a pattern covers as a whole is one token, if its numbers can be read. -/
lemma tokenize_of_accepts {m : Matcher} {argument : String} {payload : List Char}
    (h : m.Accepts argument.toList payload) :
    tokenize argument = (m.body payload).map fun b => [⟨argument, b⟩] := by
  rw [tokenize_eq_mapM, cutWith_of_accepts h, List.mapM_cons, List.mapM_nil, Piece.token]
  simp only [Piece.body, Piece.text, String.ofList_toList]
  cases m.body payload <;> rfl

/-- **The order of the patterns does not matter.**  At every place of an argument at most one of the
patterns is found, and what it covers is not empty.  So if the patterns are tried in another order,
the argument has the same tokens, or fails in the same way. -/
theorem tokenize_in_any_order (argument : String) :
    (∀ i, Matcher.all.Pairwise fun m m' =>
      m.find (argument.toList.drop i) = none ∨ m'.find (argument.toList.drop i) = none) ∧
    (∀ i, ∀ m ∈ Matcher.all, ∀ found, m.find (argument.toList.drop i) = some found →
      (argument.toList.drop i).take found.size ≠ []) ∧
    ∀ matchers, matchers.Perm Matcher.all →
      tokenizeWith matchers argument = tokenize argument := by
  refine ⟨fun i => Matcher.pairwise_find_eq_none _, ?_, ?_⟩
  · intro i m _ found hfound
    exact (m.recognises.sound _ found hfound).ne_nil
  · intro matchers hperm
    rw [tokenizeWith_eq_mapM, tokenize_eq_mapM,
      cutWith_congr (Matcher.first?_congr fun m => hperm.mem_iff)]

/-- Doubled sigils before braces, a block and a field, with the patterns tried from the last to the
first. -/
theorem tokenize_in_reversed_order :
    Matcher.all.reverse.Perm Matcher.all ∧
    tokenizeWith Matcher.all.reverse "%%\x7b1\x7d@@\x7bx\x7d@\x7by\x7d-2" = .ok
      [⟨"%%", .sigil "%"⟩, ⟨"\x7b", .plain "\x7b"⟩, ⟨"1", .field 1⟩, ⟨"\x7d", .plain "\x7d"⟩,
        ⟨"@@", .sigil "@"⟩, ⟨"\x7bx\x7d", .plain "\x7bx\x7d"⟩, ⟨"@\x7by\x7d", .block "y"⟩,
        ⟨"-2", .fieldFromEnd 2⟩] := by
  have hperm := List.reverse_perm Matcher.all
  refine ⟨hperm, ?_⟩
  rw [(tokenize_in_any_order _).2.2 _ hperm]
  cbv

end PrintSpec
