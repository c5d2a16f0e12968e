import Mathlib.Data.Bool.AllAny
import Mathlib.Data.List.Basic
import PrintSpec.Shell

/-!
# Reading a command line back

How a POSIX shell splits one command into words, without any expansion.  Blanks that are not quoted
separate words.  Between single quotes every character stands for itself; between double quotes a
backslash quotes the four characters that would mean something there; outside of quotes it quotes
any character.  A quoted line end after a backslash joins two lines.

The reader is for a single plain command.  It refuses an unquoted character with which a shell would
do something else than go on with the word: an operator, an expansion, a comment.  An unquoted line
end ends the command, and only blanks may come after it.

`commandLine_splits_into_command` says that a command line is read back as the command, whatever its
words hold.  The proof goes word by word (`readWords_quoteWord`), and inside a quoted word character by
character (`readWords_quotedChar`).
-/

namespace PrintSpec.Shell

/-- The unquoted characters that separate words, apart from the line end. -/
def isSeparator (c : Char) : Bool :=
  c = ' ' || c = '\t'

/-- The unquoted characters that mean more than themselves. -/
def isSpecial (c : Char) : Bool :=
  ['|', '&', ';', '<', '>', '(', ')', '$', '\x60', '*', '?', '[', '#', '~', '!', '{', '}'].contains c

/-- The characters that a backslash quotes between double quotes. -/
def isQuotedInDouble (c : Char) : Bool :=
  ['$', '\x60', '"', '\\'].contains c

/-- Where in a command line a character stands. -/
inductive Place where
  /-- Outside of quotes. -/
  | bare
  /-- After a backslash outside of quotes. -/
  | escaped
  /-- Between single quotes. -/
  | single
  /-- Between double quotes. -/
  | double
  /-- After a backslash between double quotes. -/
  | doubleEscaped
  /-- After the end of the command. -/
  | ended
  deriving DecidableEq, Repr

/-- A word that goes on with some characters; it may begin with them. -/
def goOn (word : Option (List Char)) (cs : List Char) : Option (List Char) :=
  some (word.getD [] ++ cs)

/-- Takes one character at a place, where `word` is the word begun before it: the words that end
here, the place after it and the word that goes on there.  Nothing if the character is refused. -/
def step (place : Place) (word : Option (List Char)) (c : Char) :
    Option (List (List Char) × Place × Option (List Char)) :=
  match place with
  | .bare =>
    if isSeparator c then some (word.toList, .bare, none)
    else if c = '\n' then some (word.toList, .ended, none)
    else if c = '\'' then some ([], .single, goOn word [])
    else if c = '"' then some ([], .double, goOn word [])
    else if c = '\\' then some ([], .escaped, word)
    else if isSpecial c then none
    else some ([], .bare, goOn word [c])
  | .escaped => some ([], .bare, if c = '\n' then word else goOn word [c])
  | .single => if c = '\'' then some ([], .bare, word) else some ([], .single, goOn word [c])
  | .double =>
    if c = '"' then some ([], .bare, word)
    else if c = '\\' then some ([], .doubleEscaped, word)
    else if isQuotedInDouble c then none
    else some ([], .double, goOn word [c])
  | .doubleEscaped =>
    if c = '\n' then some ([], .double, word)
    else some ([], .double, goOn word (if isQuotedInDouble c then [c] else ['\\', c]))
  | .ended => if isSeparator c ∨ c = '\n' then some ([], .ended, none) else none

/-- The words of a text that is read from a place on. -/
def readWords (place : Place) (word : Option (List Char)) : List Char → Option (List (List Char))
  | [] => if place = .bare ∨ place = .ended then some word.toList else none
  | c :: cs =>
    match step place word c with
    | none => none
    | some (ended, place, word) => (readWords place word cs).map (ended ++ ·)

/-- The words of a command line; nothing if it is not one plain command. -/
def words? (line : String) : Option (List String) :=
  (readWords .bare none line.toList).map (List.map String.ofList)

/-! ## One word -/

lemma marks_of_isHarmless {c : Char} (h : isHarmless c) :
    isSeparator c = false ∧ c ≠ '\n' ∧ c ≠ '\'' ∧ c ≠ '"' ∧ c ≠ '\\' ∧ isSpecial c = false := by
  have hne : ∀ d : Char, isHarmless d = false → c ≠ d := by
    rintro d hd rfl
    simp [h] at hd
  refine ⟨?_, hne _ (by decide), hne _ (by decide), hne _ (by decide), hne _ (by decide), ?_⟩
  · simp [isSeparator, hne ' ' (by decide), hne '\t' (by decide)]
  · have hspecial : ∀ d, isSpecial d → isHarmless d = false := by
      intro d hd
      rw [isSpecial, List.contains_eq_mem, decide_eq_true_eq] at hd
      revert d
      rw [← List.all_iff_forall_prop]
      decide
    by_contra hc
    simp [hspecial c (by simpa using hc)] at h

lemma readWords_harmless {c : Char} {cs : List Char} (h : ∀ d ∈ c :: cs, isHarmless d)
    (word : Option (List Char)) (rest : List Char) :
    readWords .bare word (c :: cs ++ rest) = readWords .bare (goOn word (c :: cs)) rest := by
  obtain ⟨hsep, hline, hsingle, hdouble, hslash, hspecial⟩ :=
    marks_of_isHarmless (h c List.mem_cons_self)
  have hstep : readWords .bare word (c :: cs ++ rest) =
      readWords .bare (goOn word [c]) (cs ++ rest) := by
    simp [readWords, step, hsep, hline, hsingle, hdouble, hslash, hspecial]
  rw [hstep]
  cases cs with
  | nil => rfl
  | cons d cs =>
    rw [readWords_harmless (fun e he => h e (List.mem_cons_of_mem c he))]
    simp [goOn]

/-- Quoted characters are read back up to the closing quote, also where a single quote leaves the
quotes and comes back to them. -/
lemma readWords_quotedChar (cs word rest : List Char) :
    readWords .single (some word) (cs.flatMap quotedChar ++ '\'' :: rest) =
      readWords .bare (some (word ++ cs)) rest := by
  induction cs generalizing word with
  | nil => simp [readWords, step]
  | cons c cs ih =>
    have htail := ih (word ++ [c])
    by_cases hc : c = '\''
    · subst hc
      simpa [quotedChar, readWords, step, goOn, isSeparator, isQuotedInDouble] using htail
    · simpa [quotedChar, readWords, step, goOn, hc] using htail

/-- A word is read back from its quoted form. -/
lemma readWords_quoteWord (w : String) (rest : List Char) :
    readWords .bare none ((quoteWord w).toList ++ rest) = readWords .bare (some w.toList) rest := by
  unfold quoteWord
  cases hw : w.toList with
  | nil => simp [readWords, step, goOn, isSeparator]
  | cons c cs =>
    rw [if_neg (by simp)]
    split
    · rename_i hharmless
      rw [hw, readWords_harmless (by simpa using hharmless)]
      rfl
    · have hquoted := readWords_quotedChar (c :: cs) [] rest
      simpa [readWords, step, goOn, isSeparator] using hquoted

/-! ## A command -/

/-- A command line is read back as its words, in front of any text at which a command ends. -/
lemma readWords_commandLine {rest : List Char}
    (hrest : ∀ word, readWords .bare word rest = some word.toList) (command : List String) :
    readWords .bare none ((commandLine command).toList ++ rest) =
      some (command.map String.toList) := by
  rw [commandLine, String.toList_intercalate]
  induction command with
  | nil => simpa using hrest none
  | cons w command ih =>
    cases command with
    | nil =>
      rw [List.map_singleton, List.map_singleton, List.intercalate_singleton, readWords_quoteWord,
        hrest]
      rfl
    | cons v command =>
      simp only [List.map_cons, List.intercalate_cons_cons, List.append_assoc] at ih ⊢
      rw [readWords_quoteWord]
      simpa [readWords, step, isSeparator] using ih

lemma words?_commandLine (command : List String) :
    words? (commandLine command ++ "\n") = some command := by
  have hend : "\n".toList = ['\n'] := rfl
  have hline : ∀ word, readWords .bare word ['\n'] = some word.toList := by
    simp [readWords, step, isSeparator]
  rw [words?, String.toList_append, hend, readWords_commandLine hline]
  simp

/-- **Quoting a command for a shell loses nothing.**  The line of a command is split into exactly the
words of the command, whatever characters they hold: empty words, quotes, blanks and line ends come
back as they are. -/
theorem commandLine_splits_into_command (command : List String) :
    words? (commandLine command) = some command := by
  have hend : ∀ word, readWords .bare word [] = some word.toList := by
    simp [readWords]
  have hwords := readWords_commandLine hend command
  rw [List.append_nil] at hwords
  rw [words?, hwords]
  simp

/-! ## Where characters come from -/

lemma forall_mem_goOn {P : Char → Prop} {word : Option (List Char)}
    (hword : ∀ w ∈ word, ∀ c ∈ w, P c) (cs : List Char) (hcs : ∀ c ∈ cs, P c) :
    ∀ w ∈ goOn word cs, ∀ c ∈ w, P c := by
  rintro w ⟨⟩ c hc
  rcases List.mem_append.mp hc with hc | hc
  · cases word with
    | none => simp at hc
    | some w => exact hword w rfl c hc
  · exact hcs c hc

/-- One step makes words of nothing but the word begun before it and the character it takes. -/
lemma forall_mem_of_step {P : Char → Prop} {place place' : Place} {word word' : Option (List Char)}
    {c : Char} {ended : List (List Char)} (h : step place word c = some (ended, place', word'))
    (hword : ∀ w ∈ word, ∀ d ∈ w, P d) (hslash : place = .doubleEscaped → P '\\') (hc : P c) :
    (∀ w ∈ ended, ∀ d ∈ w, P d) ∧ (∀ w ∈ word', ∀ d ∈ w, P d) ∧
      (place' = .doubleEscaped → P '\\') := by
  have hsame := forall_mem_goOn hword [] (by simp)
  have hadded := forall_mem_goOn hword [c] (by simpa)
  cases place with
  | doubleEscaped =>
    have hboth := forall_mem_goOn hword ['\\', c] (by simpa using ⟨hslash rfl, hc⟩)
    simp only [step] at h
    split at h
    all_goals
      cases h
      refine ⟨by simp, ?_, by simp⟩
    · exact hword
    · split
      · exact hadded
      · exact hboth
  | bare | single | double | escaped | ended =>
    simp only [step] at h
    split_ifs at h
    all_goals
      cases h
      simp_all

/-- Words hold only characters of the text that is read and of the word that was begun before it. -/
lemma forall_mem_of_readWords {P : Char → Prop} {place : Place} {word : Option (List Char)}
    {cs : List Char} {ws : List (List Char)} (h : readWords place word cs = some ws)
    (hword : ∀ w ∈ word, ∀ c ∈ w, P c) (hslash : place = .doubleEscaped → P '\\')
    (hcs : ∀ c ∈ cs, P c) : ∀ w ∈ ws, ∀ c ∈ w, P c := by
  induction cs generalizing place word ws with
  | nil =>
    rw [readWords] at h
    split at h
    · cases h
      simpa using hword
    · cases h
  | cons c cs ih =>
    cases hstep : step place word c with
    | none => simp [readWords, hstep] at h
    | some next =>
      obtain ⟨ended, place', word'⟩ := next
      obtain ⟨hended, hword', hslash'⟩ :=
        forall_mem_of_step hstep hword hslash (hcs c List.mem_cons_self)
      simp only [readWords, hstep] at h
      obtain ⟨more, hmore, rfl⟩ := Option.map_eq_some_iff.mp h
      have htail := ih hmore hword' hslash' fun d hd => hcs d (List.mem_cons_of_mem c hd)
      intro w hw
      rcases List.mem_append.mp hw with hw | hw
      · exact hended w hw
      · exact htail w hw

/-- The words of a command line hold only characters of the line. -/
lemma mem_of_words? {line : String} {command : List String} (h : words? line = some command) :
    ∀ w ∈ command, ∀ c ∈ w.toList, c ∈ line.toList := by
  obtain ⟨ws, hws, rfl⟩ := Option.map_eq_some_iff.mp h
  have hmem := forall_mem_of_readWords (P := fun c => c ∈ line.toList) hws (by simp) (by simp)
    fun c hc => hc
  intro w hw
  obtain ⟨cs, hcs, rfl⟩ := List.mem_map.mp hw
  simpa using hmem cs hcs

lemma mem_quoteWord {w : String} {c : Char} (h : c ∈ (quoteWord w).toList) :
    c = '\'' ∨ c = '"' ∨ c ∈ w.toList := by
  unfold quoteWord at h
  split_ifs at h
  · left
    simpa using h
  · exact .inr (.inr h)
  · simp only [String.toList_ofList, List.cons_append, List.mem_cons, List.mem_append,
      List.mem_flatMap, List.not_mem_nil, or_false] at h
    rcases h with h | ⟨d, hd, hc⟩ | h
    · exact .inl h
    · unfold quotedChar at hc
      split at hc
      · simp only [List.mem_cons, List.not_mem_nil, or_false] at hc
        tauto
      · rw [List.mem_singleton] at hc
        exact .inr (.inr (hc ▸ hd))
    · exact .inl h

/-- The other way round, a command line holds the characters of its words, quotes and spaces. -/
lemma mem_commandLine {command : List String} {c : Char} (h : c ∈ (commandLine command).toList) :
    c = ' ' ∨ c = '\'' ∨ c = '"' ∨ ∃ w ∈ command, c ∈ w.toList := by
  have hspace : " ".toList = [' '] := rfl
  rw [commandLine, String.toList_intercalate, hspace] at h
  induction command with
  | nil => simp at h
  | cons w command ih =>
    have hword : c ∈ (quoteWord w).toList → c = ' ' ∨ c = '\'' ∨ c = '"' ∨
        ∃ v ∈ w :: command, c ∈ v.toList := by
      intro hc
      rcases mem_quoteWord hc with hc | hc | hc
      · exact .inr (.inl hc)
      · exact .inr (.inr (.inl hc))
      · exact .inr (.inr (.inr ⟨w, List.mem_cons_self, hc⟩))
    cases command with
    | nil => exact hword (by simpa using h)
    | cons v command =>
      simp only [List.map_cons, List.intercalate_cons_cons, List.mem_append] at h
      rcases h with (h | h) | h
      · exact hword h
      · exact .inl (by simpa using h)
      · rcases ih h with hc | hc | hc | ⟨u, hu, hc⟩
        · exact .inl hc
        · exact .inr (.inl hc)
        · exact .inr (.inr (.inl hc))
        · exact .inr (.inr (.inr ⟨u, List.mem_cons_of_mem w hu, hc⟩))

end PrintSpec.Shell
