import Mathlib.Data.List.TakeWhile
import Mathlib.Tactic.Common
import PrintSpec.Proofs.Awk.Literal
import PrintSpec.Proofs.Traversal

/-!
# Lexemes of an awk action

Awk reads an action as a row of lexemes: string literals, numerals, names and single marks, with
blanks between them.  This file gives that reading for the part of the language that a main action
is written in.  The reader is cautious: a text outside that part has no lexemes at all, rather than
some that awk would not agree with.  So a numeral that runs on into a name or a fraction, an escape
that awk leaves undefined, a line end, or a sign that is the start of a longer operator is refused.

The lemmas say what each kind of lexeme takes from the front of a text and that the rest is read as
if it stood alone.  For a string literal this is unconditional (`ofChars?_quote`): whatever a text
holds, its literal is one lexeme and denotes that text.  For numerals and names it needs what
follows to end them, which a text that begins with a delimiter does (`Delimits`).
-/

namespace PrintSpec.Awk

/-- A lexeme of an action. -/
inductive Lexeme where
  | text (meaning : String)
  | number (value : Nat)
  | name (id : String)
  /-- A name with a parenthesis right after it, which is the name of a function. -/
  | callee (id : String)
  /-- A word that the language keeps for itself. -/
  | keyword (id : String)
  | mark (c : Char)
  deriving DecidableEq, Repr

namespace Lexeme

/-! ## Single lexemes -/

/-- The meaning of a backslash and one character inside a string literal. -/
def escapeMeaning? (c : Char) : Option Char :=
  [('\\', '\\'), ('"', '"'), ('/', '/'), ('a', '\x07'), ('b', '\x08'), ('f', '\x0c'),
   ('n', '\n'), ('r', '\r'), ('t', '\t'), ('v', '\x0b')].lookup c

/-- Reads a string literal after its opening quote: its meaning, and what follows the closing
quote.  A literal does not go over the end of a line. -/
def readText? : List Char → Option (List Char × List Char)
  | [] => none
  | c :: rest =>
    if c = '"' then some ([], rest)
    else if c = '\n' then none
    else if c = '\\' then
      match rest with
      | [] => none
      | e :: rest =>
        (escapeMeaning? e).bind fun meaning =>
          (readText? rest).map fun (content, rest) => (meaning :: content, rest)
    else (readText? rest).map fun (content, rest) => (c :: content, rest)

/-- Whether a character may stand in a name. -/
def isNameChar (c : Char) : Bool :=
  c.isAlphanum || c == '_'

/-- The words that are never names. -/
def keywords : List String :=
  ["BEGIN", "END", "break", "continue", "delete", "do", "else", "exit", "for", "func", "function",
   "getline", "if", "in", "next", "nextfile", "print", "printf", "return", "while"]

/-- The lexeme of a word, given what follows it. -/
def ofWord (word : String) (rest : List Char) : Lexeme :=
  if keywords.contains word then .keyword word
  else if rest.head? = some '(' then .callee word
  else .name word

/-- The marks that stand by themselves, whatever follows. -/
def marks : List Char := ['{', '}', '(', ')', ',', '$']

/-- The signs, each of which may also begin a longer operator. -/
def signs : List Char := ['+', '-']

/-- The lexeme at the start of a text that begins with no blank, and what follows it. -/
def next? : List Char → Option (Lexeme × List Char)
  | [] => none
  | c :: rest =>
    if c = '"' then
      (readText? rest).map fun (content, rest) => (.text (String.ofList content), rest)
    else if c.isDigit then
      let after := rest.dropWhile Char.isDigit
      if after.head?.any fun d => isNameChar d || d == '.' then none
      else some (.number (Nat.ofDigitChars 10 (c :: rest.takeWhile Char.isDigit) 0), after)
    else if isNameChar c then
      let after := rest.dropWhile isNameChar
      some (ofWord (String.ofList (c :: rest.takeWhile isNameChar)) after, after)
    else if marks.contains c then some (.mark c, rest)
    else if signs.contains c then
      if rest.head?.any fun d => d == c || d == '=' then none else some (.mark c, rest)
    else none

/-! ## Reading goes on in the line -/

/-- What is left of a text after something was taken from its front that holds no line end. -/
def Leaves (cs rest : List Char) : Prop :=
  ∃ taken, taken ≠ [] ∧ '\n' ∉ taken ∧ cs = taken ++ rest

lemma Leaves.length_lt {cs rest : List Char} (h : Leaves cs rest) : rest.length < cs.length := by
  obtain ⟨taken, hne, -, rfl⟩ := h
  have hpos : 0 < taken.length := List.length_pos_iff.mpr hne
  rw [List.length_append]
  omega

lemma Leaves.cons {c : Char} {cs rest : List Char} (hc : c ≠ '\n') (h : Leaves cs rest) :
    Leaves (c :: cs) rest := by
  obtain ⟨taken, -, hn, rfl⟩ := h
  exact ⟨c :: taken, by simp, by simp [hn, hc.symm], rfl⟩

lemma leaves_tail {c : Char} (hc : c ≠ '\n') (rest : List Char) : Leaves (c :: rest) rest :=
  ⟨[c], by simp, by simpa using hc.symm, rfl⟩

/-- A class that does not hold the line end cannot take one. -/
lemma leaves_dropWhile {c : Char} (hc : c ≠ '\n') {p : Char → Bool} (hp : p '\n' = false)
    (cs : List Char) : Leaves (c :: cs) (cs.dropWhile p) := by
  refine ⟨c :: cs.takeWhile p, by simp, ?_, by simp⟩
  intro hn
  rcases List.mem_cons.mp hn with rfl | htake
  · exact hc rfl
  · rw [List.mem_takeWhile_imp htake] at hp
    cases hp

lemma leaves_of_readText? {cs content rest : List Char}
    (h : readText? cs = some (content, rest)) : Leaves cs rest := by
  fun_induction readText? cs generalizing content rest with
  | case1 => simp at h
  | case2 cs =>
    obtain ⟨-, rfl⟩ := by simpa using h
    exact leaves_tail (by decide) cs
  | case3 => simp at h
  | case4 => simp at h
  | case5 e cs hq hn ih =>
    obtain ⟨meaning, he, h⟩ := Option.bind_eq_some_iff.mp h
    obtain ⟨⟨content', rest'⟩, hr, heq⟩ := Option.map_eq_some_iff.mp h
    obtain ⟨-, rfl⟩ := by simpa using heq
    have hne : e ≠ '\n' := by
      rintro rfl
      cases he
    exact ((ih hr).cons hne).cons (by decide)
  | case6 c cs hq hn hb ih =>
    obtain ⟨⟨content', rest'⟩, hr, heq⟩ := Option.map_eq_some_iff.mp h
    obtain ⟨-, rfl⟩ := by simpa using heq
    exact (ih hr).cons hn

lemma leaves_of_next? {cs rest : List Char} {l : Lexeme} (h : next? cs = some (l, rest)) :
    Leaves cs rest := by
  cases cs with
  | nil => simp [next?] at h
  | cons c cs =>
    have hne : c ≠ '\n' := by
      rintro rfl
      cases h
    simp only [next?] at h
    split_ifs at h
    · obtain ⟨⟨content, rest'⟩, hr, heq⟩ := Option.map_eq_some_iff.mp h
      obtain ⟨-, rfl⟩ := by simpa using heq
      exact (leaves_of_readText? hr).cons hne
    all_goals obtain ⟨-, rfl⟩ := by simpa using h
    · exact leaves_dropWhile hne (by decide) cs
    · exact leaves_dropWhile hne (by decide) cs
    · exact leaves_tail hne cs
    · exact leaves_tail hne cs

/-- The lexemes of a text; none if some part of it has none. -/
def ofChars? (cs : List Char) : Option (List Lexeme) :=
  match cs with
  | [] => some []
  | c :: rest =>
    if c = ' ' ∨ c = '\t' then ofChars? rest
    else
      match _h : next? (c :: rest) with
      | none => none
      | some (l, after) => (ofChars? after).map (l :: ·)
termination_by cs.length
decreasing_by
  · simp
  · exact (leaves_of_next? _h).length_lt

/-- A text that has lexemes holds no line end. -/
lemma newline_not_mem_of_ofChars? {cs : List Char} {ls : List Lexeme}
    (h : ofChars? cs = some ls) : '\n' ∉ cs := by
  fun_induction ofChars? cs generalizing ls with
  | case1 => simp
  | case2 c rest hc ih =>
    have := ih h
    rcases hc with rfl | rfl <;> simpa using this
  | case3 c rest hc hnone => simp at h
  | case4 c rest hc l after hnext ih =>
    obtain ⟨ls', hls', -⟩ := Option.map_eq_some_iff.mp h
    obtain ⟨taken, -, htaken, hsplit⟩ := leaves_of_next? hnext
    rw [hsplit, List.mem_append]
    exact fun hn => hn.elim htaken (ih hls')

/-! ## What each lexeme takes from a text -/

@[simp] lemma ofChars?_nil : ofChars? [] = some [] := by
  rw [ofChars?]

@[simp] lemma ofChars?_blank (rest : List Char) : ofChars? (' ' :: rest) = ofChars? rest := by
  rw [ofChars?, if_pos (Or.inl rfl)]

lemma ofChars?_of_next? {c : Char} {rest after : List Char} {l : Lexeme}
    (hc : ¬ (c = ' ' ∨ c = '\t')) (h : next? (c :: rest) = some (l, after)) :
    ofChars? (c :: rest) = (ofChars? after).map (l :: ·) := by
  rw [ofChars?, if_neg hc]
  split
  · rename_i h'
    rw [h] at h'
    cases h'
  · rename_i l' after' h'
    rw [h] at h'
    cases h'
    rfl

/-- A mark is a lexeme of its own, whatever follows it. -/
lemma ofChars?_mark {c : Char} (hc : c ∈ marks) (rest : List Char) :
    ofChars? (c :: rest) = (ofChars? rest).map (.mark c :: ·) := by
  have hnext : next? (c :: rest) = some (.mark c, rest) := by
    simp only [marks, List.mem_cons, List.not_mem_nil, or_false] at hc
    rcases hc with rfl | rfl | rfl | rfl | rfl | rfl <;> rfl
  refine ofChars?_of_next? ?_ hnext
  rintro (rfl | rfl) <;> exact absurd hc (by decide)

/-- A sign with a blank after it is a lexeme of its own. -/
lemma ofChars?_sign {c : Char} (hc : c ∈ signs) (rest : List Char) :
    ofChars? (c :: ' ' :: rest) = (ofChars? rest).map (.mark c :: ·) := by
  have hnext : next? (c :: ' ' :: rest) = some (.mark c, ' ' :: rest) := by
    simp only [signs, List.mem_cons, List.not_mem_nil, or_false] at hc
    rcases hc with rfl | rfl <;> rfl
  rw [ofChars?_of_next? _ hnext, ofChars?_blank]
  rintro (rfl | rfl) <;> exact absurd hc (by decide)

/-! ### String literals -/

@[simp] lemma readText?_close (rest : List Char) : readText? ('"' :: rest) = some ([], rest) := by
  rw [readText?.eq_def]
  rfl

lemma readText?_plain {c : Char} (hq : c ≠ '"') (hn : c ≠ '\n') (hb : c ≠ '\\')
    (rest : List Char) :
    readText? (c :: rest) = (readText? rest).map fun (content, rest) => (c :: content, rest) := by
  rw [readText?.eq_def]
  simp [hq, hn, hb]

lemma readText?_escape {e meaning : Char} (he : escapeMeaning? e = some meaning)
    (rest : List Char) :
    readText? ('\\' :: e :: rest) =
      (readText? rest).map fun (content, rest) => (meaning :: content, rest) := by
  rw [readText?.eq_def]
  simp [he]

/-- Literals are read by the rules of awk. -/
def literalReader : LiteralReader where
  read := readText?
  read_close := readText?_close
  read_newline rest := by
    rw [readText?.eq_def]
    rfl
  read_pair e meaning he rest := by
    have hmeaning : escapeMeaning? e = some meaning := by
      simp only [escapePairs, List.mem_cons, Prod.mk.injEq, List.not_mem_nil, or_false] at he
      rcases he with ⟨rfl, rfl⟩ | ⟨rfl, rfl⟩ | ⟨rfl, rfl⟩ | ⟨rfl, rfl⟩ <;> rfl
    exact readText?_escape hmeaning rest
  read_char _ hq hn hb rest := readText?_plain hq hn hb rest

/-- The literal of a text is one lexeme that denotes the text, whatever the text holds and
whatever follows. -/
lemma ofChars?_quote (t : String) (rest : List Char) :
    ofChars? ((quote t).toList ++ rest) = (ofChars? rest).map (.text t :: ·) := by
  have hquote : (quote t).toList ++ rest =
      '"' :: (t.toList.flatMap escapeChar ++ '"' :: rest) := by
    simp [quote]
  have hread : readText? (t.toList.flatMap escapeChar ++ '"' :: rest) = some (t.toList, rest) :=
    literalReader.read_flatMap_escapeChar t.toList rest
  have hnext : next? ('"' :: (t.toList.flatMap escapeChar ++ '"' :: rest)) =
      some (.text t, rest) := by
    rw [next?, if_pos rfl, hread]
    simp
  rw [hquote, ofChars?_of_next? (by decide) hnext]

/-! ### Numerals and names -/

/-- The characters that end a numeral or a name. -/
def delimiters : List Char := [' ', ',', ')']

/-- A text that ends a numeral or a name before it: it is empty or begins with a delimiter. -/
def Delimits (rest : List Char) : Prop :=
  ∀ c ∈ rest.head?, c ∈ delimiters

lemma delimits_cons {c : Char} {rest : List Char} (hc : c ∈ delimiters) :
    Delimits (c :: rest) := by
  simpa [Delimits] using hc

lemma Delimits.stops {rest : List Char} (h : Delimits rest) {p : Char → Bool}
    (hp : delimiters.all (!p ·)) : ∀ c ∈ rest.head?, p c = false := by
  intro c hc
  simpa using List.all_eq_true.mp hp c (h c hc)

/-- A numeral is one lexeme where what follows ends it. -/
lemma ofChars?_toDigits (n : Nat) {rest : List Char} (hrest : Delimits rest) :
    ofChars? (Nat.toDigits 10 n ++ rest) = (ofChars? rest).map (.number n :: ·) := by
  obtain ⟨d, ds, hds⟩ := List.exists_cons_of_ne_nil (Nat.toDigits_ne_nil (n := n) (b := 10))
  have hdigit : ∀ c ∈ d :: ds, c.isDigit := by
    intro c hc
    rw [← hds] at hc
    exact Nat.isDigit_of_mem_toDigits (by decide) (by decide) hc
  have hspan := span_append (fun c hc => hdigit c (List.mem_cons_of_mem d hc))
    (hrest.stops (by decide))
  have hd : d.isDigit := hdigit d List.mem_cons_self
  have hafter : rest.head?.any (fun c => isNameChar c || c == '.') = false := by
    rw [Option.any_eq_false]
    exact hrest.stops (by decide)
  have hnext : next? (d :: (ds ++ rest)) = some (.number n, rest) := by
    have hquote : d ≠ '"' := by
      rintro rfl
      exact absurd hd (by decide)
    rw [next?, if_neg hquote, if_pos hd, hspan.1, hspan.2]
    simp only [hafter, Bool.false_eq_true, if_false]
    rw [← hds, Nat.ofDigitChars_ten_toDigits]
  rw [hds, List.cons_append, ofChars?_of_next? _ hnext]
  rintro (rfl | rfl) <;> exact absurd hd (by decide)

/-- A word is one lexeme where no name character follows; what follows decides whether it is the
name of a function. -/
lemma ofChars?_word {c : Char} {word rest : List Char} (hc : isNameChar c)
    (hdigit : c.isDigit = false) (hword : word.all isNameChar)
    (hrest : ∀ d ∈ rest.head?, isNameChar d = false) :
    ofChars? (c :: (word ++ rest)) =
      (ofChars? rest).map (ofWord (String.ofList (c :: word)) rest :: ·) := by
  have hspan := span_append (List.all_eq_true.mp hword) hrest
  have hnext : next? (c :: (word ++ rest)) =
      some (ofWord (String.ofList (c :: word)) rest, rest) := by
    have hquote : c ≠ '"' := by
      rintro rfl
      exact absurd hc (by decide)
    rw [next?, if_neg hquote, if_neg (by simp [hdigit]), if_pos hc, hspan.1, hspan.2]
  refine ofChars?_of_next? ?_ hnext
  rintro (rfl | rfl) <;> exact absurd hc (by decide)

/-- Whether a text is a name. -/
def isName (x : String) : Bool :=
  match x.toList with
  | [] => false
  | c :: word =>
    isNameChar c && !c.isDigit && word.all isNameChar && !keywords.contains x

/-- A name is one lexeme where no name character follows. -/
lemma ofChars?_name {x : String} (hx : isName x) {rest : List Char}
    (hrest : ∀ d ∈ rest.head?, isNameChar d = false) :
    ofChars? (x.toList ++ rest) =
      (ofChars? rest).map ((if rest.head? = some '(' then .callee x else .name x) :: ·) := by
  unfold isName at hx
  split at hx
  · simp at hx
  · rename_i c word hlist
    simp only [Bool.and_eq_true, Bool.not_eq_eq_eq_not, Bool.not_true] at hx
    obtain ⟨⟨⟨hc, hdigit⟩, hword⟩, hkeyword⟩ := hx
    rw [hlist, List.cons_append, ofChars?_word hc hdigit hword hrest, ← hlist,
      String.ofList_toList, ofWord, hkeyword]
    rfl

/-! ## Texts that keep their lexemes -/

/-- A text has these lexemes wherever it stands before a delimiter, and leaves the lexemes of what
follows as they are. -/
def Spells (s : String) (ls : List Lexeme) : Prop :=
  ∀ rest, Delimits rest → ofChars? (s.toList ++ rest) = (ofChars? rest).map (ls ++ ·)

lemma spells_empty : Spells "" [] := by
  intro rest _
  simp

lemma spells_quote (t : String) : Spells (quote t) [.text t] :=
  fun rest _ => ofChars?_quote t rest

lemma spells_number (n : Nat) : Spells (toString n) [.number n] := by
  intro rest hrest
  rw [Nat.toString_eq_ofList_toDigits, String.toList_ofList, ofChars?_toDigits n hrest]
  rfl

lemma spells_name {x : String} (hx : isName x) : Spells x [.name x] := by
  intro rest hrest
  have hopen : ¬ rest.head? = some '(' := fun h => absurd (hrest '(' h) (by decide)
  rw [ofChars?_name hx (hrest.stops (by decide)), if_neg hopen]
  rfl

/-- A sign between blanks keeps the lexemes of what follows. -/
lemma Spells.sign {c : Char} (hc : c ∈ signs) {s : String} {ls : List Lexeme}
    (hs : Spells s ls) : Spells (String.ofList [' ', c, ' '] ++ s) (.mark c :: ls) := by
  intro rest hrest
  have hsplit : (String.ofList [' ', c, ' '] ++ s).toList ++ rest =
      ' ' :: c :: ' ' :: (s.toList ++ rest) := by
    simp
  rw [hsplit, ofChars?_blank, ofChars?_sign hc, hs rest hrest, Option.map_map]
  rfl

lemma delimits_sign (c : Char) (s : String) (rest : List Char) :
    Delimits ((String.ofList [' ', c, ' '] ++ s).toList ++ rest) := by
  simp [Delimits, delimiters]

/-- The call of a function keeps the lexemes of what stands between its parentheses. -/
lemma Spells.call {f : String} (hf : isName f) {s : String} {ls : List Lexeme}
    (hs : Spells s ls) :
    Spells (f ++ "(" ++ s ++ ")") (.callee f :: .mark '(' :: (ls ++ [.mark ')'])) := by
  intro rest _
  have hsplit : (f ++ "(" ++ s ++ ")").toList ++ rest =
      f.toList ++ '(' :: (s.toList ++ ')' :: rest) := by
    simp
  rw [hsplit, ofChars?_name hf (by simp [isNameChar]), List.head?_cons, if_pos rfl,
    ofChars?_mark (by decide),
    hs _ (delimits_cons (by decide)), ofChars?_mark (by decide), Option.map_map, Option.map_map,
    Option.map_map]
  congr 1
  funext more
  simp

lemma Spells.append {s t : String} {ls ms : List Lexeme} (hs : Spells s ls) (ht : Spells t ms)
    (hdelimits : ∀ rest, Delimits (t.toList ++ rest)) : Spells (s ++ t) (ls ++ ms) := by
  intro rest hrest
  rw [String.toList_append, List.append_assoc, hs _ (hdelimits rest), ht rest hrest,
    Option.map_map]
  congr 1
  funext more
  simp

/-- A separator that begins with a delimiter keeps the lexemes of the texts on both sides. -/
lemma Spells.separated {sep : String} {gap : List Lexeme}
    (hsep : ∀ rest, ofChars? (sep.toList ++ rest) = (ofChars? rest).map (gap ++ ·))
    (hdelimits : ∀ rest, Delimits (sep.toList ++ rest)) {texts : List String}
    {lexemes : List (List Lexeme)} (h : List.Forall₂ Spells texts lexemes) :
    Spells (sep.intercalate texts) (gap.intercalate lexemes) := by
  induction h with
  | nil => simpa using spells_empty
  | @cons s ls texts lexemes hs htail ih =>
    cases htail with
    | nil => simpa using hs
    | @cons t ms texts lexemes ht htail =>
      intro rest hrest
      rw [String.intercalate_cons_cons, List.intercalate_cons_cons, String.toList_append,
        String.toList_append, List.append_assoc, List.append_assoc, hs _ (hdelimits _), hsep,
        ih rest hrest, Option.map_map, Option.map_map]
      congr 1
      funext more
      simp

lemma spells_commas {texts : List String} {lexemes : List (List Lexeme)}
    (h : List.Forall₂ Spells texts lexemes) :
    Spells (", ".intercalate texts) (List.intercalate [.mark ','] lexemes) := by
  apply Spells.separated _ _ h
  · intro rest
    change ofChars? (',' :: ' ' :: rest) = _
    rw [ofChars?_mark (by decide), ofChars?_blank]
    rfl
  · exact fun rest => delimits_cons (c := ',') (by decide)

lemma spells_blanks {texts : List String} {lexemes : List (List Lexeme)}
    (h : List.Forall₂ Spells texts lexemes) :
    Spells (" ".intercalate texts) (List.intercalate [] lexemes) := by
  apply Spells.separated _ _ h
  · intro rest
    change ofChars? (' ' :: rest) = _
    rw [ofChars?_blank]
    simp
  · exact fun rest => delimits_cons (c := ' ') (by decide)

end Lexeme

end PrintSpec.Awk
