import Mathlib.Data.List.DropRight
import PrintSpec.Text.Blank
import PrintSpec.Text.LowerCase

/-!
# Lower case, and the blanks around a text

Lower case is a property of whole texts: one capital has a lower-case form of two characters, and
the form of the capital sigma depends on its neighbours, near and far.  Two laws hold all the same.
A text in lower case stays as it is (`lower_lower`), and it makes no difference whether the blanks
around a text are taken away before or after (`trim_lower`).

Both rest on facts about the tables.  A lower-case form is never a capital, which is checked run
against run, and a blank is no capital, no lower-case form, has no case and does not let casing look
through it.  So for a sigma at the edge of a text, the blanks outside of it are the same as nothing.
-/

namespace PrintSpec.Text

/-! ## Tables -/

/-- A character in one of two tables that have no code point in common is not in the other. -/
lemma inRanges_of_apart {as bs : List CodeRange}
    (hapart : ∀ a ∈ as, ∀ b ∈ bs, a.2 < b.1 ∨ b.2 < a.1) {c : Char} (hc : inRanges as c) :
    inRanges bs c = false := by
  simp only [inRanges, List.any_eq_true, Bool.and_eq_true, decide_eq_true_eq] at hc
  obtain ⟨a, ha, hlow, hhigh⟩ := hc
  rw [inRanges, List.any_eq_false]
  intro b hb
  have := hapart a ha b hb
  simp only [Bool.and_eq_true, decide_eq_true_eq]
  omega

lemma isCased_of_isBlank {c : Char} (h : isBlank c) : isCased c = false :=
  inRanges_of_apart (by decide +kernel) h

lemma isCaseIgnorable_of_isBlank {c : Char} (h : isBlank c) : isCaseIgnorable c = false :=
  inRanges_of_apart (by decide +kernel) h

namespace CaseRun

/-- The code of the lower-case form of a capital of a run. -/
def lowered (r : CaseRun) (n : Nat) : Nat :=
  r.target + (n - r.lo)

/-- No lower-case form of the first run is a capital of the second.  Either the codes lie apart, or
the two alternate. -/
def misses (r q : CaseRun) : Bool :=
  (r.lowered r.hi).blt q.lo || q.hi.blt r.target ||
    (q.step.beq 2 && (r.step.beq 2 || r.hi.beq r.lo) && ((r.target + q.lo) % 2).beq 1)

lemma contains_iff {r : CaseRun} {n : Nat} :
    r.contains n ↔ r.lo ≤ n ∧ n ≤ r.hi ∧ (n - r.lo) % r.step = 0 := by
  simp [contains, and_assoc]

lemma lowered_mem {r : CaseRun} {n : Nat} (h : r.contains n) :
    r.target ≤ r.lowered n ∧ r.lowered n ≤ r.lowered r.hi := by
  have := (contains_iff.mp h).2.1
  unfold lowered
  omega

lemma not_contains_lowered {r q : CaseRun} (h : r.misses q) {n : Nat} (hn : r.contains n) :
    q.contains (r.lowered n) = false := by
  have hcode := lowered_mem hn
  obtain ⟨hlow, hhigh, hstep⟩ := contains_iff.mp hn
  rw [Bool.eq_false_iff, ne_eq, contains_iff]
  rintro ⟨hlow', hhigh', hstep'⟩
  simp only [misses, Bool.or_eq_true, Bool.and_eq_true, Nat.blt_eq, Nat.beq_eq] at h
  rcases h with (habove | hbelow) | ⟨⟨htwo, halternate⟩, hodd⟩
  · omega
  · omega
  · -- the forms of `r` have the parity of its target, and the capitals of `q` the other one
    have heven : (n - r.lo) % 2 = 0 := by
      rcases halternate with hr | hr
      · rwa [hr] at hstep
      · omega
    rw [htwo] at hstep'
    unfold lowered at hlow' hstep'
    omega

end CaseRun

/-- No lower-case form of the table is a capital of it. -/
lemma misses_of_mem {r q : CaseRun} (hr : r ∈ caseRuns) (hq : q ∈ caseRuns) : r.misses q := by
  have hall : (caseRuns.all fun r => caseRuns.all fun q => r.misses q) = true := by decide +kernel
  exact List.all_eq_true.mp (List.all_eq_true.mp hall r hr) q hq

/-- The lower-case forms of the table are codes of characters, and none of them is the capital with
two characters in its lower-case form. -/
lemma codes_of_mem : ∀ r ∈ caseRuns,
    (r.lowered r.hi < 0xD800 ∨ 0xDFFF < r.target ∧ r.lowered r.hi < 0x110000) ∧
      (r.lowered r.hi < 0x130 ∨ 0x130 < r.target) := by
  decide +kernel

/-- Neither the capitals of the table nor their lower-case forms are blanks. -/
lemma blanks_apart_of_mem : ∀ r ∈ caseRuns, ∀ b ∈ blankRanges,
    (r.hi < b.1 ∨ b.2 < r.lo) ∧ (r.lowered r.hi < b.1 ∨ b.2 < r.target) := by
  decide +kernel

/-! ## Characters -/

lemma lowerChar_of_not_capital {c : Char} (hdotted : c.toNat ≠ 0x130)
    (hruns : ∀ r ∈ caseRuns, r.contains c.toNat = false) : lowerChar c = [c] := by
  have hfind : caseRuns.find? (fun r => r.contains c.toNat) = none := by
    rw [List.find?_eq_none]
    intro r hr
    simp [hruns r hr]
  rw [lowerChar, if_neg hdotted, hfind]

/-- A character has two others as its lower-case form, or one other that a run gives, or itself. -/
lemma lowerChar_cases (c : Char) :
    (c.toNat = 0x130 ∧ lowerChar c = ['i', '\u0307']) ∨
      (∃ r ∈ caseRuns, ∃ d : Char, r.contains c.toNat ∧ d.toNat = r.lowered c.toNat ∧
        lowerChar c = [d]) ∨
      lowerChar c = [c] := by
  unfold lowerChar
  by_cases hdotted : c.toNat = 0x130
  · exact .inl ⟨hdotted, if_pos hdotted⟩
  right
  rw [if_neg hdotted]
  cases hfind : caseRuns.find? fun r => r.contains c.toNat with
  | none => exact .inr rfl
  | some r =>
    have hr := List.mem_of_find?_eq_some hfind
    have hcontains : r.contains c.toNat = true := by simpa using List.find?_some hfind
    have hvalid : (r.lowered c.toNat).isValidChar := by
      have hcode := CaseRun.lowered_mem hcontains
      have hcodes := (codes_of_mem r hr).1
      unfold Nat.isValidChar
      omega
    refine .inl ⟨r, hr, Char.ofNat (r.lowered c.toNat), hcontains, ?_, rfl⟩
    rw [Char.ofNat, dif_pos hvalid]
    rfl

lemma lowerChar_ne_nil (c : Char) : lowerChar c ≠ [] := by
  rcases lowerChar_cases c with ⟨-, htext⟩ | ⟨-, -, d, -, -, htext⟩ | htext <;> simp [htext]

/-- A lower-case form is in lower case. -/
lemma lowerChar_of_mem_lowerChar {c d : Char} (h : d ∈ lowerChar c) : lowerChar d = [d] := by
  rcases lowerChar_cases c with ⟨-, htext⟩ | ⟨r, hr, e, hcontains, he, htext⟩ | htext
  · have hpair : lowerChar 'i' = ['i'] ∧ lowerChar '\u0307' = ['\u0307'] := by decide +kernel
    rw [htext, List.mem_pair] at h
    rcases h with rfl | rfl
    · exact hpair.1
    · exact hpair.2
  · obtain rfl : d = e := by simpa [htext] using h
    refine lowerChar_of_not_capital ?_ fun q hq => ?_
    · have hcode := CaseRun.lowered_mem hcontains
      have hcodes := (codes_of_mem r hr).2
      omega
    · rw [he]
      exact CaseRun.not_contains_lowered (misses_of_mem hr hq) hcontains
  · obtain rfl : d = c := by simpa [htext] using h
    exact htext

lemma lowerChar_of_isBlank {c : Char} (h : isBlank c) : lowerChar c = [c] := by
  simp only [isBlank, inRanges, List.any_eq_true, Bool.and_eq_true, decide_eq_true_eq] at h
  obtain ⟨b, hb, hlow, hhigh⟩ := h
  have hdotted : ∀ b ∈ blankRanges, b.2 < 0x130 ∨ 0x130 < b.1 := by decide
  refine lowerChar_of_not_capital ?_ fun r hr => ?_
  · have := hdotted b hb
    omega
  · have hapart := (blanks_apart_of_mem r hr b hb).1
    rw [Bool.eq_false_iff, ne_eq, CaseRun.contains_iff]
    omega

/-- Lower case makes no blanks. -/
lemma isBlank_of_mem_lowerChar {c d : Char} (h : d ∈ lowerChar c) (hc : isBlank c = false) :
    isBlank d = false := by
  rcases lowerChar_cases c with ⟨-, htext⟩ | ⟨r, hr, e, hcontains, he, htext⟩ | htext
  · rw [htext, List.mem_pair] at h
    rcases h with rfl | rfl <;> decide
  · obtain rfl : d = e := by simpa [htext] using h
    rw [isBlank, inRanges, List.any_eq_false]
    intro b hb
    have hcode := CaseRun.lowered_mem hcontains
    have hapart := (blanks_apart_of_mem r hr b hb).2
    simp only [Bool.and_eq_true, decide_eq_true_eq]
    omega
  · obtain rfl : d = c := by simpa [htext] using h
    exact hc

/-! ## Characters in their place -/

/-- The lower-case form of a character between the characters before it, nearest first, and those
after it. -/
def lowerBetween (before : List Char) (c : Char) (after : List Char) : List Char :=
  if c = 'Σ' then
    if meetsCased before && !meetsCased after then ['ς'] else ['σ']
  else lowerChar c

lemma lowerAfter_cons (before : List Char) (c : Char) (cs : List Char) :
    lowerAfter before (c :: cs) = lowerBetween before c cs ++ lowerAfter (c :: before) cs := rfl

/-- Only the final sigma depends on its neighbours. -/
lemma lowerBetween_cases (before : List Char) (c : Char) (after : List Char) :
    lowerBetween before c after = lowerChar c ∨
      c = 'Σ' ∧ lowerBetween before c after = ['ς'] := by
  unfold lowerBetween
  split_ifs with hsigma hfinal
  · exact .inr ⟨hsigma, rfl⟩
  · subst hsigma
    exact .inl (by decide +kernel)
  · exact .inl rfl

lemma lowerBetween_ne_nil (before : List Char) (c : Char) (after : List Char) :
    lowerBetween before c after ≠ [] := by
  rcases lowerBetween_cases before c after with h | ⟨-, h⟩
  · rw [h]
    exact lowerChar_ne_nil c
  · simp [h]

lemma lowerChar_of_mem_lowerBetween {before after : List Char} {c d : Char}
    (hd : d ∈ lowerBetween before c after) : lowerChar d = [d] := by
  rcases lowerBetween_cases before c after with h | ⟨-, h⟩
  · rw [h] at hd
    exact lowerChar_of_mem_lowerChar hd
  · obtain rfl : d = 'ς' := by simpa [h] using hd
    decide +kernel

lemma isBlank_of_mem_lowerBetween {before after : List Char} {c d : Char}
    (hd : d ∈ lowerBetween before c after) (hc : isBlank c = false) : isBlank d = false := by
  rcases lowerBetween_cases before c after with h | ⟨-, h⟩
  · rw [h] at hd
    exact isBlank_of_mem_lowerChar hd hc
  · obtain rfl : d = 'ς' := by simpa [h] using hd
    decide

lemma lowerBetween_of_small {c : Char} (h : lowerChar c = [c]) (before after : List Char) :
    lowerBetween before c after = [c] := by
  rcases lowerBetween_cases before c after with hform | ⟨rfl, -⟩
  · rw [hform, h]
  · exact absurd h (by decide +kernel)

/-- For the neighbours that casing looks at, blanks are the same as the end of the text. -/
lemma meetsCased_append_blanks (cs : List Char) {bs : List Char} (hbs : ∀ b ∈ bs, isBlank b) :
    meetsCased (cs ++ bs) = meetsCased cs := by
  unfold meetsCased
  rw [List.dropWhile_append]
  cases hdrop : cs.dropWhile isCaseIgnorable with
  | cons c rest => simp
  | nil =>
    cases bs with
    | nil => simp
    | cons b bs =>
      have hblank := hbs b List.mem_cons_self
      simp [isCaseIgnorable_of_isBlank hblank, isCased_of_isBlank hblank]

lemma lowerBetween_append_blanks (before : List Char) (c : Char) (after : List Char)
    {bs cs : List Char} (hbs : ∀ b ∈ bs, isBlank b) (hcs : ∀ b ∈ cs, isBlank b) :
    lowerBetween (before ++ bs) c (after ++ cs) = lowerBetween before c after := by
  rw [lowerBetween, meetsCased_append_blanks before hbs, meetsCased_append_blanks after hcs]
  rfl

/-! ## Texts -/

lemma lowerAfter_of_small (before : List Char) {cs : List Char}
    (h : ∀ c ∈ cs, lowerChar c = [c]) : lowerAfter before cs = cs := by
  induction cs generalizing before with
  | nil => rfl
  | cons c cs ih =>
    rw [List.forall_mem_cons] at h
    rw [lowerAfter_cons, lowerBetween_of_small h.1, ih _ h.2]
    rfl

lemma lowerChar_of_mem_lowerAfter {before cs : List Char} {d : Char}
    (h : d ∈ lowerAfter before cs) : lowerChar d = [d] := by
  induction cs generalizing before with
  | nil => cases h
  | cons c cs ih =>
    rw [lowerAfter_cons, List.mem_append] at h
    rcases h with h | h
    · exact lowerChar_of_mem_lowerBetween h
    · exact ih h

/-- **A text in lower case stays as it is.** -/
lemma lower_lower (s : String) : lower (lower s) = lower s := by
  have hsmall : ∀ d ∈ lowerAfter [] s.toList, lowerChar d = [d] :=
    fun d hd => lowerChar_of_mem_lowerAfter hd
  rw [lower, lower, String.toList_ofList, lowerAfter_of_small [] hsmall]

/-! ## Blanks around a text -/

/-- Neither the first nor the last character is a blank. -/
structure IsTrimmed (cs : List Char) : Prop where
  head : ∀ c ∈ cs.head?, isBlank c = false
  last : ∀ c ∈ cs.getLast?, isBlank c = false

lemma toList_trim (s : String) :
    (trim s).toList = (s.toList.dropWhile isBlank).rdropWhile isBlank := by
  rw [trim, String.toList_ofList]
  rfl

lemma rdropWhile_append_of_pos {α : Type} {p : α → Bool} (xs : List α) {ys : List α}
    (h : ∀ y ∈ ys, p y) : (xs ++ ys).rdropWhile p = xs.rdropWhile p := by
  have hreverse : ∀ y ∈ ys.reverse, p y := fun y hy => h y (List.mem_reverse.mp hy)
  rw [List.rdropWhile, List.reverse_append, List.dropWhile_append_of_pos hreverse]
  rfl

/-- Blanks that stand around a text do not belong to it. -/
lemma trim_of_padded {s t : String} {before after : List Char} (hbefore : ∀ b ∈ before, isBlank b)
    (hafter : ∀ b ∈ after, isBlank b) (hs : s.toList = before ++ t.toList ++ after) :
    trim s = trim t := by
  rw [← String.toList_inj, toList_trim, toList_trim, hs, List.append_assoc,
    List.dropWhile_append_of_pos hbefore, List.dropWhile_append]
  split
  · rename_i hempty
    rw [List.dropWhile_eq_nil_iff.mpr hafter, List.isEmpty_iff.mp hempty]
  · exact rdropWhile_append_of_pos _ hafter

lemma trim_of_isTrimmed {s : String} (h : IsTrimmed s.toList) : trim s = s := by
  have hhead : s.toList.dropWhile isBlank = s.toList := by
    cases hs : s.toList with
    | nil => rfl
    | cons c cs => exact List.dropWhile_cons_of_neg (by simp [h.head c (by simp [hs])])
  have hlast : s.toList.rdropWhile isBlank = s.toList := by
    rw [List.rdropWhile_eq_self_iff]
    intro hne
    simp [h.last _ (List.getLast?_eq_some_getLast hne)]
  rw [← String.toList_inj, toList_trim, hhead, hlast]

/-- A text is its trimmed form with blanks around it. -/
lemma exists_padding (s : String) : ∃ before after : List Char,
    (∀ b ∈ before, isBlank b) ∧ (∀ b ∈ after, isBlank b) ∧
      s.toList = before ++ (trim s).toList ++ after := by
  refine ⟨s.toList.takeWhile isBlank, (s.toList.dropWhile isBlank).rtakeWhile isBlank,
    fun b hb => List.mem_takeWhile_imp hb, fun b hb => List.mem_rtakeWhile_imp hb, ?_⟩
  rw [toList_trim, List.append_assoc, List.rdropWhile_append_rtakeWhile,
    List.takeWhile_append_dropWhile]

lemma isTrimmed_trim (s : String) : IsTrimmed (trim s).toList := by
  rw [toList_trim]
  constructor
  · intro c hc
    obtain ⟨rest, hrest⟩ := List.rdropWhile_prefix isBlank (s.toList.dropWhile isBlank)
    obtain ⟨cs, hcs⟩ := List.head?_eq_some_iff.mp hc
    have hhead := List.head?_dropWhile_not isBlank s.toList
    rw [← hrest, hcs] at hhead
    exact hhead
  · intro c hc
    obtain ⟨cs, hcs⟩ := List.getLast?_eq_some_iff.mp hc
    have hlast := List.rdropWhile_last_not isBlank (s.toList.dropWhile isBlank) (by simp [hcs])
    simpa [hcs] using hlast

@[simp] lemma trim_trim (s : String) : trim (trim s) = trim s :=
  trim_of_isTrimmed (isTrimmed_trim s)

/-! ## Lower case keeps the blanks around a text -/

/-- Blanks before the preceding characters and blanks at the end are the same as nothing. -/
lemma lowerAfter_append_blanks (before cs : List Char) {bs ds : List Char}
    (hbs : ∀ b ∈ bs, isBlank b) (hds : ∀ b ∈ ds, isBlank b) :
    lowerAfter (before ++ bs) (cs ++ ds) = lowerAfter before cs ++ ds := by
  induction cs generalizing before with
  | nil => exact lowerAfter_of_small _ fun d hd => lowerChar_of_isBlank (hds d hd)
  | cons c cs ih =>
    rw [List.cons_append, lowerAfter_cons, lowerBetween_append_blanks _ _ _ hbs hds,
      ← List.cons_append, ih, lowerAfter_cons, List.append_assoc]

lemma lowerAfter_blanks_append (before cs : List Char) {bs : List Char}
    (hbs : ∀ b ∈ bs, isBlank b) :
    lowerAfter before (bs ++ cs) = bs ++ lowerAfter (bs.reverse ++ before) cs := by
  induction bs generalizing before with
  | nil => rfl
  | cons b bs ih =>
    rw [List.forall_mem_cons] at hbs
    rw [List.cons_append, lowerAfter_cons, lowerBetween_of_small (lowerChar_of_isBlank hbs.1),
      ih _ hbs.2]
    simp

lemma lowerAfter_padded (cs : List Char) {bs ds : List Char} (hbs : ∀ b ∈ bs, isBlank b)
    (hds : ∀ b ∈ ds, isBlank b) :
    lowerAfter [] (bs ++ cs ++ ds) = bs ++ lowerAfter [] cs ++ ds := by
  have hreverse : ∀ b ∈ bs.reverse, isBlank b := fun b hb => hbs b (List.mem_reverse.mp hb)
  have hinner := lowerAfter_append_blanks [] cs hreverse hds
  rw [List.append_assoc, lowerAfter_blanks_append _ _ hbs, List.append_nil, List.append_assoc]
  exact congrArg (bs ++ ·) hinner

lemma mem_head?_lowerAfter {before cs : List Char} {d : Char}
    (h : d ∈ (lowerAfter before cs).head?) :
    ∃ c ∈ cs.head?, ∃ before after, d ∈ lowerBetween before c after := by
  cases cs with
  | nil => cases h
  | cons c cs =>
    refine ⟨c, rfl, before, cs, ?_⟩
    rw [lowerAfter_cons, List.head?_append_of_ne_nil _ (lowerBetween_ne_nil before c cs)] at h
    exact List.mem_of_head? h

lemma mem_getLast?_lowerAfter {before cs : List Char} {d : Char}
    (h : d ∈ (lowerAfter before cs).getLast?) :
    ∃ c ∈ cs.getLast?, ∃ before after, d ∈ lowerBetween before c after := by
  induction cs generalizing before with
  | nil => cases h
  | cons c cs ih =>
    cases cs with
    | nil =>
      refine ⟨c, rfl, before, [], ?_⟩
      rw [lowerAfter_cons, lowerAfter, List.append_nil] at h
      exact List.mem_of_getLast? h
    | cons e cs =>
      have hne : lowerAfter (c :: before) (e :: cs) ≠ [] := by
        simp [lowerAfter_cons, lowerBetween_ne_nil]
      rw [lowerAfter_cons, List.getLast?_append_of_ne_nil _ hne] at h
      simpa using ih h

lemma IsTrimmed.lowerAfter {cs : List Char} (h : IsTrimmed cs) (before : List Char) :
    IsTrimmed (lowerAfter before cs) := by
  constructor
  · intro d hd
    obtain ⟨c, hc, _, _, hmem⟩ := mem_head?_lowerAfter hd
    exact isBlank_of_mem_lowerBetween hmem (h.head c hc)
  · intro d hd
    obtain ⟨c, hc, _, _, hmem⟩ := mem_getLast?_lowerAfter hd
    exact isBlank_of_mem_lowerBetween hmem (h.last c hc)

/-- **Blanks around a text may be taken away before or after lower case.** -/
lemma trim_lower (s : String) : trim (lower s) = lower (trim s) := by
  obtain ⟨before, after, hbefore, hafter, hs⟩ := exists_padding s
  have hpadded : (lower s).toList = before ++ (lower (trim s)).toList ++ after := by
    rw [lower, lower, String.toList_ofList, String.toList_ofList, hs,
      lowerAfter_padded _ hbefore hafter]
  have htrimmed : IsTrimmed (lower (trim s)).toList := by
    rw [lower, String.toList_ofList]
    exact (isTrimmed_trim s).lowerAfter []
  rw [trim_of_padded hbefore hafter hpadded, trim_of_isTrimmed htrimmed]

end PrintSpec.Text
