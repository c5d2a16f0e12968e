import PrintSpec.Awk.Routine
import PrintSpec.Proofs.Awk.Lexeme

/-!
# The grammar of a main action

A main action prints a list of arguments.  An argument is a row of terms, and a term is the call of
a routine or an expression:

    action   =  { print [argument , ... , argument] }
    argument =  term ... term
    term     =  function ( [expr , ... , expr] )  |  sum
    expr     =  sum ... sum
    sum      =  operand  (+ | -)  operand  ...
    operand  =  text  |  number  |  name  |  $ operand  |  ( expr )

Terms and sums that stand side by side are concatenated.  A sum binds more tightly than that, and
`$` more tightly than a sum.  Reading goes from left to right and never back; a row of lexemes that
the grammar does not cover has no reading.

Sums, expressions, arguments and lists are all chains: an item, and then further items as long as a
`Link` leads to one.  They are read by one definition (`Reader.chain`), which ends because a reader
takes at least one lexeme.  What follows a chain decides where it ends, so each lemma about one is
stated for every rest that no link leads into: no sign after a sum (`EndsSum`), no operand after an
expression (`EndsExpr`), no term after an argument (`EndsArgument`).
-/

namespace PrintSpec.Awk

/-- One part of a print argument. -/
inductive Term where
  | expr (e : Expr)
  | call (routine : String) (arguments : List Expr)
  deriving DecidableEq, Repr

/-- The text of a term as it stands among others. -/
def Term.render : Term → String
  | .expr e => e.renderAt 1
  | .call routine arguments =>
    routine ++ "(" ++ ", ".intercalate (arguments.map Expr.render) ++ ")"

namespace Grammar

/-! ## Readers and chains -/

/-- Reads an item from the front of a row of lexemes, and takes at least one of them. -/
structure Reader (α : Type) where
  /-- The item at the front of a row, and what follows it. -/
  read : List Lexeme → Option (α × List Lexeme)
  /-- What follows is shorter than the row. -/
  length_lt : ∀ {ls a rest}, read ls = some (a, rest) → rest.length < ls.length

/-- What leads from the items of a chain to a further one. -/
structure Link (α β : Type) where
  /-- How the further item is added, and where it begins; nothing if the chain ends here. -/
  next? : List Lexeme → Option ((α → β → α) × List Lexeme)
  /-- A link does not make a row longer. -/
  length_le : ∀ {ls add rest}, next? ls = some (add, rest) → rest.length ≤ ls.length

variable {α β : Type}

/-- Reads further items as long as a link leads to one. -/
def readMore (item : Reader β) (link : Link α β) (a : α) (ls : List Lexeme) :
    Option (α × List Lexeme) :=
  match _hnext : link.next? ls with
  | none => some (a, ls)
  | some (add, begin) =>
    match _hitem : item.read begin with
    | none => none
    | some (b, rest) => readMore item link (add a b) rest
termination_by ls.length
decreasing_by exact Nat.lt_of_lt_of_le (item.length_lt _hitem) (link.length_le _hnext)

lemma readMore_end {item : Reader β} {link : Link α β} {ls : List Lexeme}
    (h : link.next? ls = none) (a : α) : readMore item link a ls = some (a, ls) := by
  rw [readMore]
  split
  · rfl
  · rename_i hnext
    rw [h] at hnext
    cases hnext

lemma readMore_step {item : Reader β} {link : Link α β} {ls begin rest : List Lexeme}
    {add : α → β → α} {b : β} (hnext : link.next? ls = some (add, begin))
    (hitem : item.read begin = some (b, rest)) (a : α) :
    readMore item link a ls = readMore item link (add a b) rest := by
  rw [readMore]
  split
  · rename_i hnext'
    rw [hnext] at hnext'
    cases hnext'
  · rename_i hnext'
    rw [hnext] at hnext'
    cases hnext'
    split
    · rename_i hitem'
      rw [hitem] at hitem'
      cases hitem'
    · rename_i hitem'
      rw [hitem] at hitem'
      cases hitem'
      rfl

lemma length_le_of_readMore {item : Reader β} {link : Link α β} {a a' : α}
    {ls rest : List Lexeme} (h : readMore item link a ls = some (a', rest)) :
    rest.length ≤ ls.length := by
  fun_induction readMore item link a ls with
  | case1 a ls hnext =>
    cases h
    exact Nat.le_refl _
  | case2 a ls add begin hnext hitem => cases h
  | case3 a ls add begin hnext b more hitem ih =>
    have hmore := item.length_lt hitem
    have hbegin := link.length_le hnext
    exact (ih h).trans (by omega)

/-- Reads a chain of items. -/
def readChain (item : Reader β) (first : β → α) (link : Link α β) (ls : List Lexeme) :
    Option (α × List Lexeme) :=
  (item.read ls).bind fun found => readMore item link (first found.1) found.2

lemma length_lt_of_readChain {item : Reader β} {first : β → α} {link : Link α β} {a : α}
    {ls rest : List Lexeme} (h : readChain item first link ls = some (a, rest)) :
    rest.length < ls.length := by
  obtain ⟨found, hfound, hmore⟩ := Option.bind_eq_some_iff.mp h
  exact Nat.lt_of_le_of_lt (length_le_of_readMore hmore) (item.length_lt hfound)

/-- A chain of items is an item in its turn. -/
def Reader.chain (item : Reader β) (first : β → α) (link : Link α β) : Reader α :=
  ⟨readChain item first link, length_lt_of_readChain⟩

/-! ## Links -/

/-- A further item after a mark. -/
def nextAfterMark (add? : Char → Option (α → β → α)) :
    List Lexeme → Option ((α → β → α) × List Lexeme)
  | .mark c :: rest => (add? c).map (·, rest)
  | _ => none

lemma length_le_of_nextAfterMark {add? : Char → Option (α → β → α)} {ls rest : List Lexeme}
    {add : α → β → α} (h : nextAfterMark add? ls = some (add, rest)) :
    rest.length ≤ ls.length := by
  unfold nextAfterMark at h
  split at h
  · obtain ⟨_, _, heq⟩ := Option.map_eq_some_iff.mp h
    cases heq
    simp
  · cases h

/-- A further item right here, if one begins. -/
def nextIfOpens (opens : List Lexeme → Bool) (add : α → β → α) (ls : List Lexeme) :
    Option ((α → β → α) × List Lexeme) :=
  if opens ls then some (add, ls) else none

lemma length_le_of_nextIfOpens {opens : List Lexeme → Bool} {add add' : α → β → α}
    {ls rest : List Lexeme} (h : nextIfOpens opens add ls = some (add', rest)) :
    rest.length ≤ ls.length := by
  unfold nextIfOpens at h
  split at h
  · cases h
    exact Nat.le_refl _
  · cases h

/-- Whether an operand begins. -/
def opensOperand : List Lexeme → Bool
  | .text _ :: _ | .number _ :: _ | .name _ :: _ => true
  | .mark c :: _ => c == '$' || c == '('
  | _ => false

/-- Whether a term begins. -/
def opensTerm : List Lexeme → Bool
  | .callee _ :: _ => true
  | ls => opensOperand ls

/-- What a sign makes of two operands. -/
def signed? : Char → Option (Expr → Expr → Expr)
  | '+' => some .add
  | '-' => some .sub
  | _ => none

/-- Adds an item to a list. -/
def snoc (as : List α) (a : α) : List α :=
  as ++ [a]

/-- A comma adds an item to a list. -/
def comma? (c : Char) : Option (List α → α → List α) :=
  if c = ',' then some snoc else none

/-- The signs of a sum. -/
def signs : Link Expr Expr :=
  ⟨nextAfterMark signed?, length_le_of_nextAfterMark⟩

/-- Sums side by side. -/
def joins : Link Expr Expr :=
  ⟨nextIfOpens opensOperand .join, length_le_of_nextIfOpens⟩

/-- Commas between the items of a list. -/
def commas : Link (List α) α :=
  ⟨nextAfterMark comma?, length_le_of_nextAfterMark⟩

/-- Terms side by side. -/
def rows : Link (List Term) Term :=
  ⟨nextIfOpens opensTerm snoc, length_le_of_nextIfOpens⟩

/-! ## The constructs of the grammar -/

/-- Reads an item up to a closing parenthesis. -/
def readClosed (item : Reader α) (ls : List Lexeme) : Option (α × List Lexeme) :=
  match item.read ls with
  | some (a, .mark ')' :: rest) => some (a, rest)
  | _ => none

lemma length_lt_of_readClosed {item : Reader α} {a : α} {ls rest : List Lexeme}
    (h : readClosed item ls = some (a, rest)) : rest.length < ls.length := by
  unfold readClosed at h
  split at h
  · rename_i hread
    cases h
    exact Nat.lt_of_succ_lt (item.length_lt hread)
  · cases h

/-- A sum of operands. -/
def sum (operand : Reader Expr) : Reader Expr :=
  operand.chain id signs

/-- An expression made of operands. -/
def expr (operand : Reader Expr) : Reader Expr :=
  (sum operand).chain id joins

/-- Reads an operand, given how those inside it are read. -/
def readOperand (inner : Reader Expr) : List Lexeme → Option (Expr × List Lexeme)
  | .text t :: rest => some (.text t, rest)
  | .number n :: rest => some (.number n, rest)
  | .name x :: rest => some (.name x, rest)
  | .mark '$' :: rest => (inner.read rest).map fun (index, rest) => (.field index, rest)
  | .mark '(' :: rest => readClosed (expr inner) rest
  | _ => none

lemma length_lt_of_readOperand {inner : Reader Expr} {e : Expr} {ls rest : List Lexeme}
    (h : readOperand inner ls = some (e, rest)) : rest.length < ls.length := by
  unfold readOperand at h
  split at h
  · cases h
    simp
  · cases h
    simp
  · cases h
    simp
  · obtain ⟨⟨index, more⟩, hread, heq⟩ := Option.map_eq_some_iff.mp h
    cases heq
    exact Nat.lt_succ_of_lt (inner.length_lt hread)
  · exact Nat.lt_succ_of_lt (length_lt_of_readClosed h)
  · cases h

/-- Operands with less than a number of others around them. -/
def operand : Nat → Reader Expr
  | 0 => ⟨fun _ => none, nofun⟩
  | depth + 1 => ⟨readOperand (operand depth), length_lt_of_readOperand⟩

/-- Reads a term. -/
def readTerm (operand : Reader Expr) : List Lexeme → Option (Term × List Lexeme)
  | .callee f :: .mark '(' :: .mark ')' :: rest => some (.call f [], rest)
  | .callee f :: .mark '(' :: rest =>
    (readClosed ((expr operand).chain ([·]) commas) rest).map fun (es, rest) => (.call f es, rest)
  | ls => ((sum operand).read ls).map fun (e, rest) => (.expr e, rest)

lemma length_lt_of_readTerm {operand : Reader Expr} {t : Term} {ls rest : List Lexeme}
    (h : readTerm operand ls = some (t, rest)) : rest.length < ls.length := by
  unfold readTerm at h
  split at h
  · cases h
    simp only [List.length_cons]
    omega
  · obtain ⟨⟨es, more⟩, hread, heq⟩ := Option.map_eq_some_iff.mp h
    cases heq
    exact Nat.lt_succ_of_lt (Nat.lt_succ_of_lt (length_lt_of_readClosed hread))
  · obtain ⟨⟨e, more⟩, hread, heq⟩ := Option.map_eq_some_iff.mp h
    cases heq
    exact (sum operand).length_lt hread

/-- A term made of operands. -/
def term (operand : Reader Expr) : Reader Term :=
  ⟨readTerm operand, length_lt_of_readTerm⟩

/-- A print argument made of operands. -/
def argument (operand : Reader Expr) : Reader (List Term) :=
  (term operand).chain ([·]) rows

/-- Reads an action: the arguments that it prints.  No operand of a row of lexemes has more of them
around it than the row is long. -/
def action? (ls : List Lexeme) : Option (List (List Term)) :=
  match ls with
  | [.mark '{', .keyword "print", .mark '}'] => some []
  | .mark '{' :: .keyword "print" :: rest =>
    match ((argument (operand ls.length)).chain ([·]) commas).read rest with
    | some (arguments, [.mark '}']) => some arguments
    | _ => none
  | _ => none

end Grammar

/-- Reads the text of an action. -/
def readAction? (line : String) : Option (List (List Term)) :=
  (Lexeme.ofChars? line.toList).bind Grammar.action?

namespace Grammar

variable {α β : Type}

/-! ## Where a construct ends -/

/-- What follows does not go on with a sum. -/
def EndsSum (rest : List Lexeme) : Prop :=
  signs.next? rest = none

/-- What follows does not go on with an expression. -/
def EndsExpr (rest : List Lexeme) : Prop :=
  EndsSum rest ∧ joins.next? rest = none

/-- What follows does not go on with a print argument. -/
def EndsArgument (rest : List Lexeme) : Prop :=
  EndsSum rest ∧ rows.next? rest = none

lemma endsSum_of_opensTerm {rest : List Lexeme} (h : opensTerm rest) : EndsSum rest := by
  match rest with
  | [] => rfl
  | .text _ :: _ | .number _ :: _ | .name _ :: _ | .callee _ :: _ | .keyword _ :: _ => rfl
  | .mark c :: rest =>
    obtain rfl | rfl : c = '$' ∨ c = '(' := by simpa [opensTerm, opensOperand] using h
    · rfl
    · rfl

/-- The marks that end a list end an item of it too. -/
lemma ends_mark {c : Char} (hc : c ∈ [',', ')', '}']) (rest : List Lexeme) :
    EndsExpr (.mark c :: rest) ∧ EndsArgument (.mark c :: rest) := by
  simp only [List.mem_cons, List.not_mem_nil, or_false] at hc
  rcases hc with rfl | rfl | rfl <;> exact ⟨⟨rfl, rfl⟩, ⟨rfl, rfl⟩⟩

/-! ## What the readers give -/

/-- A chain of one item ends where no link leads on. -/
lemma read_chain {item : Reader β} {link : Link α β} {ls rest : List Lexeme} {b : β}
    (h : item.read ls = some (b, rest)) (hend : link.next? rest = none) (first : β → α) :
    (item.chain first link).read ls = some (first b, rest) := by
  change readChain item first link ls = _
  rw [readChain, h]
  exact readMore_end hend (first b)

/-- A chain begins with an item. -/
lemma read_chain_eq_none {item : Reader β} {ls : List Lexeme} (h : item.read ls = none)
    (first : β → α) (link : Link α β) : (item.chain first link).read ls = none := by
  change readChain item first link ls = _
  rw [readChain, h]
  rfl

/-- Lexemes that a reader takes as a whole, wherever what follows ends an item. -/
def Reads (item : Reader α) (Ends : List Lexeme → Prop) (ls : List Lexeme) (a : α) : Prop :=
  ∀ rest, Ends rest → item.read (ls ++ rest) = some (a, rest)

/-- Lexemes of an item that may follow another: a gap leads to them, and ends what is before. -/
structure Follows (item : Reader α) (link : Link (List α) α) (gap : List Lexeme)
    (Ends : List Lexeme → Prop) (ls : List Lexeme) (a : α) : Prop where
  reads : Reads item Ends ls a
  next?_eq : ∀ rest, link.next? (gap ++ (ls ++ rest)) = some (snoc, ls ++ rest)
  ends : ∀ rest, Ends (gap ++ (ls ++ rest))

/-- A comma leads to any item that it ends. -/
lemma follows_comma {item : Reader α} {Ends : List Lexeme → Prop} {ls : List Lexeme} {a : α}
    (hcomma : ∀ rest, Ends (.mark ',' :: rest)) (h : Reads item Ends ls a) :
    Follows item commas [.mark ','] Ends ls a :=
  ⟨h, fun _ => rfl, fun _ => hcomma _⟩

/-- A term may follow another with nothing between them. -/
lemma follows_term {inner : Reader Expr} {ls : List Lexeme} {t : Term}
    (h : Reads (term inner) EndsSum ls t) (hopens : ∀ rest, opensTerm (ls ++ rest)) :
    Follows (term inner) rows [] EndsSum ls t :=
  ⟨h, fun rest => if_pos (hopens rest), fun rest => endsSum_of_opensTerm (hopens rest)⟩

section

variable {item : Reader α} {link : Link (List α) α} {gap : List Lexeme}
  {Ends : List Lexeme → Prop} {lexemes : List (List Lexeme)} {as : List α} {rest : List Lexeme}

lemma ends_of_follows (h : List.Forall₂ (Follows item link gap Ends) lexemes as)
    (hends : Ends rest) : Ends (lexemes.flatMap (gap ++ ·) ++ rest) := by
  cases h with
  | nil => exact hends
  | cons ha htail => simpa using ha.ends _

/-- Items that follow one another are read one by one. -/
lemma readMore_of_follows (h : List.Forall₂ (Follows item link gap Ends) lexemes as)
    (hends : Ends rest) (hnext : link.next? rest = none) (before : List α) :
    readMore item link before (lexemes.flatMap (gap ++ ·) ++ rest) =
      some (before ++ as, rest) := by
  induction h generalizing before with
  | nil => simpa using readMore_end hnext before
  | @cons ls a lexemes as ha htail ih =>
    have hsplit : (ls :: lexemes).flatMap (gap ++ ·) ++ rest =
        gap ++ (ls ++ (lexemes.flatMap (gap ++ ·) ++ rest)) := by
      simp
    rw [hsplit, readMore_step (ha.next?_eq _) (ha.reads _ (ends_of_follows htail hends)), ih]
    simp [snoc]

lemma intercalate_cons (gap ls : List Lexeme) (lexemes : List (List Lexeme)) :
    gap.intercalate (ls :: lexemes) = ls ++ lexemes.flatMap (gap ++ ·) := by
  induction lexemes generalizing ls with
  | nil => simp
  | cons ms lexemes ih =>
    rw [List.intercalate_cons_cons, ih]
    simp

/-- A list of items is read up to where neither an item nor the list goes on. -/
lemma read_list (h : List.Forall₂ (Follows item link gap Ends) lexemes as) (hne : as ≠ [])
    (hends : Ends rest) (hnext : link.next? rest = none) :
    (item.chain ([·]) link).read (gap.intercalate lexemes ++ rest) = some (as, rest) := by
  cases h with
  | nil => exact absurd rfl hne
  | @cons ls a lexemes as ha htail =>
    have hfirst := ha.reads _ (ends_of_follows htail hends)
    rw [intercalate_cons, List.append_assoc]
    change readChain item ([·]) link _ = _
    rw [readChain, hfirst]
    exact readMore_of_follows htail hends hnext [a]

end

/-- No operand begins with a closing parenthesis. -/
lemma read_operand_close (depth : Nat) (rest : List Lexeme) :
    (operand depth).read (.mark ')' :: rest) = none := by
  cases depth <;> rfl

/-- A call is read with the list of expressions between its parentheses. -/
lemma read_term_call (f : String) {depth : Nat} {ls rest : List Lexeme} {es : List Expr}
    (h : ((expr (operand depth)).chain ([·]) commas).read ls = some (es, .mark ')' :: rest)) :
    (term (operand depth)).read (.callee f :: .mark '(' :: ls) = some (.call f es, rest) := by
  have hopen : ∀ more, ls ≠ .mark ')' :: more := by
    rintro more rfl
    have hnone : (expr (operand depth)).read (.mark ')' :: more) = none :=
      read_chain_eq_none (read_chain_eq_none (read_operand_close depth more) _ _) _ _
    rw [read_chain_eq_none hnone] at h
    cases h
  change readTerm _ _ = _
  unfold readTerm
  split
  · rename_i heq
    cases heq
    exact absurd rfl (hopen _)
  · rename_i heq
    cases heq
    rw [readClosed, h]
    rfl
  · rename_i _ hne
    exact absurd rfl (hne f ls)

/-- An operand is a term by itself, where no sign follows. -/
lemma read_term_operand {inner : Reader Expr} {ls rest : List Lexeme} {e : Expr}
    (hls : ∀ f more, ls ≠ .callee f :: more) (h : inner.read ls = some (e, rest))
    (hrest : EndsSum rest) : (term inner).read ls = some (.expr e, rest) := by
  have hsum : (sum inner).read ls = some (e, rest) := read_chain h hrest id
  change readTerm _ _ = _
  unfold readTerm
  split
  · exact absurd rfl (hls _ _)
  · exact absurd rfl (hls _ _)
  · rw [hsum]
    rfl

/-- An action is read with the list of arguments that it prints. -/
lemma action?_print {ls : List Lexeme} {arguments : List (List Term)}
    (h : ((argument (operand (ls.length + 2))).chain ([·]) commas).read ls =
      some (arguments, [.mark '}'])) :
    action? (.mark '{' :: .keyword "print" :: ls) = some arguments := by
  have hopen : ls ≠ [.mark '}'] := by
    rintro rfl
    cases h
  unfold action?
  split
  · rename_i heq
    cases heq
    exact absurd rfl hopen
  · rename_i heq
    cases heq
    rw [List.length_cons, List.length_cons, h]
    rfl
  · rename_i _ hne
    exact absurd rfl (hne ls)

end Grammar

end PrintSpec.Awk
