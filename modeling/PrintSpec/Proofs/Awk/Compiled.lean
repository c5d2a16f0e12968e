import PrintSpec.Awk.Program
import PrintSpec.Proofs.Awk.Grammar
import PrintSpec.Proofs.Awk.Validity
import PrintSpec.Proofs.TokenForm

/-!
# Reading compiled programs

Every body of a token has a term (`termOf`), and the fragment that the body compiles to is the text
of that term (`render_of_ofBody?`).  Awk reads that text back as the term, whatever stands around
it among other fragments (`readable_termOf`).  From this the reading of a whole action follows:
awk sees the terms of every argument, with the empty text where an argument has no tokens and after
the last argument (`readAction?_action`).  Nothing here depends on what a literal text holds.
-/

namespace PrintSpec.Awk

open Grammar

/-! ## Terms of tokens -/

/-- The expression of a range end that may be missing. -/
def endExpr (bound : Option Bound) (missing : Expr) : Expr :=
  match bound with
  | none => missing
  | some b =>
    if b.fromEnd then .add (.sub (.name "NF") (.number b.value.toNat)) (.number 1)
    else .number b.value.toNat

/-- The term of the empty text. -/
def emptyTerm : Term := .expr (.text "")

/-- The term that a token compiles to.  A token without a fragment stands for the empty text. -/
def termOf : Body → Term
  | .sigil t | .number t | .block t | .plain t => .expr (.text t)
  | .field number => .expr (.field (.number number))
  | .fieldFromEnd distance => .call fieldFromEnd.name [.number distance]
  | .range first last =>
    .call joinRange.name [endExpr first (.number 1), endExpr last (.name "NF")]
  | .invalid _ => emptyTerm

lemma repr_one : Nat.repr 1 = "1" := by decide

lemma toString_toNat {n : Int} (h : 0 ≤ n) : toString n.toNat = toString n := by
  obtain ⟨k, rfl⟩ := Int.eq_ofNat_of_zero_le h
  rfl

@[simp] lemma render_number (n : Nat) : (Expr.number n).render = toString n := by
  simp [Expr.render, Expr.renderAt, Expr.level]

@[simp] lemma render_name (x : String) : (Expr.name x).render = x := by
  simp [Expr.render, Expr.renderAt, Expr.level]

@[simp] lemma render_fromEnd (n : Nat) :
    (Expr.add (.sub (.name "NF") (.number n)) (.number 1)).render =
      "NF - " ++ toString n ++ " + 1" := by
  have hone : " + " ++ Nat.repr 1 = " + 1" := by decide
  simp [Expr.render, Expr.renderAt, Expr.level, ← hone, String.append_assoc]

lemma render_endExpr {bound : Option Bound} (h : NaturalEnd bound) (missing : Expr) :
    (endExpr bound missing).render = Fragment.boundOperand bound missing.render := by
  cases bound with
  | none => rfl
  | some b =>
    have hvalue := toString_toNat (h b rfl)
    cases hend : b.fromEnd with
    | false =>
      simp only [endExpr, hend, Fragment.boundOperand, Fragment.operand, Bool.false_eq_true,
        if_false, render_number, hvalue]
    | true =>
      simp only [endExpr, hend, Fragment.boundOperand, Fragment.operand, if_true, render_fromEnd,
        hvalue]

/-- A fragment is the text of the term of its token. -/
lemma render_of_ofBody? {b : Body} (hnat : b.Natural) {f : Fragment}
    (h : Fragment.ofBody? b = some f) : f.render = (termOf b).render := by
  cases b with
  | sigil t | number t | block t | plain t | field n =>
    cases h
    simp [Fragment.render, termOf, Term.render, Expr.renderAt, Expr.level]
  | fieldFromEnd n =>
    cases h
    simp [Fragment.render, termOf, Term.render]
  | range first last =>
    cases h
    have hfirst := render_endExpr hnat.1 (.number 1)
    have hlast := render_endExpr hnat.2 (.name "NF")
    simp only [Fragment.render, termOf, Term.render, List.map_cons, List.map_nil, hfirst, hlast,
      render_number, render_name]
    simp [Fragment.openFirst, Fragment.openLast, repr_one, String.append_assoc]
  | invalid t => cases h

/-! ## Terms that are read back -/

/-- An expression whose text is read back as the expression wherever it is an argument. -/
def ExprReadable (e : Expr) : Prop :=
  ∃ ls, Lexeme.Spells e.render ls ∧ ∀ depth, Reads (expr (operand (depth + 1))) EndsExpr ls e

/-- A term whose text is read back as the term wherever it stands among others.  No term of a token
has an operand with more than one other around it. -/
def Readable (t : Term) : Prop :=
  ∃ ls, Lexeme.Spells t.render ls ∧ (∀ depth, Reads (term (operand (depth + 2))) EndsSum ls t) ∧
    ∀ rest, opensTerm (ls ++ rest)

lemma exprReadable_number (n : Nat) : ExprReadable (.number n) := by
  refine ⟨[.number n], ?_, ?_⟩
  · rw [render_number]
    exact Lexeme.spells_number n
  · intro depth rest hrest
    exact read_chain (read_chain rfl hrest.1 id) hrest.2 id

lemma exprReadable_name {x : String} (hx : Lexeme.isName x) : ExprReadable (.name x) := by
  refine ⟨[.name x], ?_, ?_⟩
  · rw [render_name]
    exact Lexeme.spells_name hx
  · intro depth rest hrest
    exact read_chain (read_chain rfl hrest.1 id) hrest.2 id

/-- An end that counts from the last field is read as a difference and a sum, from the left. -/
lemma exprReadable_fromEnd (n : Nat) :
    ExprReadable (.add (.sub (.name "NF") (.number n)) (.number 1)) := by
  refine ⟨[.name "NF", .mark '-', .number n, .mark '+', .number 1], ?_, ?_⟩
  · have hone : Lexeme.Spells (" + " ++ "1") [.mark '+', .number 1] :=
      Lexeme.Spells.sign (by decide) (repr_one ▸ Lexeme.spells_number 1)
    have hminus : Lexeme.Spells (" - " ++ (toString n ++ (" + " ++ "1")))
        [.mark '-', .number n, .mark '+', .number 1] :=
      Lexeme.Spells.sign (by decide) ((Lexeme.spells_number n).append hone
        (Lexeme.delimits_sign '+' "1"))
    have hall := (Lexeme.spells_name (x := "NF") (by decide)).append hminus
      (Lexeme.delimits_sign '-' _)
    have htext : "NF - " ++ toString n ++ " + 1" =
        "NF" ++ (" - " ++ (toString n ++ (" + " ++ "1"))) := by
      rw [← String.append_assoc, ← String.append_assoc]
      rfl
    rw [render_fromEnd, htext]
    exact hall
  · intro depth rest hrest
    refine read_chain ?_ hrest.2 id
    -- the sum grows to the left: first the difference, then one more
    change readMore _ signs (.name "NF") _ = _
    rw [readMore_step rfl rfl, readMore_step rfl rfl]
    exact readMore_end hrest.1 _

lemma exprReadable_endExpr {missing : Expr} (h : ExprReadable missing) (bound : Option Bound) :
    ExprReadable (endExpr bound missing) := by
  cases bound with
  | none => exact h
  | some b =>
    unfold endExpr
    dsimp only
    split
    · exact exprReadable_fromEnd _
    · exact exprReadable_number _

/-- Where each item of a list has lexemes, the items have a list of them. -/
lemma exists_lexemes {α : Type} {render : α → String} {R : List Lexeme → α → Prop} {as : List α}
    (h : ∀ a ∈ as, ∃ ls, Lexeme.Spells (render a) ls ∧ R ls a) :
    ∃ lexemes, List.Forall₂ Lexeme.Spells (as.map render) lexemes ∧
      List.Forall₂ R lexemes as := by
  induction as with
  | nil => exact ⟨[], .nil, .nil⟩
  | cons a as ih =>
    obtain ⟨ls, hls, ha⟩ := h a List.mem_cons_self
    obtain ⟨lexemes, hlexemes, has⟩ := ih fun b hb => h b (List.mem_cons_of_mem a hb)
    exact ⟨ls :: lexemes, .cons hls hlexemes, .cons ha has⟩

lemma readable_text (t : String) : Readable (.expr (.text t)) := by
  refine ⟨[.text t], ?_, ?_, fun rest => rfl⟩
  · simpa [Term.render, Expr.renderAt, Expr.level] using Lexeme.spells_quote t
  · intro depth rest hrest
    exact read_term_operand (by simp) rfl hrest

lemma readable_emptyTerm : Readable emptyTerm :=
  readable_text ""

lemma readable_field (n : Nat) : Readable (.expr (.field (.number n))) := by
  refine ⟨[.mark '$', .number n], ?_, ?_, fun rest => rfl⟩
  · intro rest hrest
    have hsplit : (Term.expr (.field (.number n))).render.toList ++ rest =
        '$' :: ((toString n).toList ++ rest) := by
      simp [Term.render, Expr.renderAt, Expr.level]
    rw [hsplit, Lexeme.ofChars?_mark (by decide), Lexeme.spells_number n rest hrest,
      Option.map_map]
    rfl
  · intro depth rest hrest
    exact read_term_operand (by simp) rfl hrest

/-- The call of a routine is read back if each of its arguments is. -/
lemma readable_call {f : String} (hf : Lexeme.isName f) {es : List Expr} (hne : es ≠ [])
    (hes : ∀ e ∈ es, ExprReadable e) : Readable (.call f es) := by
  obtain ⟨lexemes, hspells, hreads⟩ : ∃ lexemes,
      List.Forall₂ Lexeme.Spells (es.map Expr.render) lexemes ∧
        List.Forall₂ (fun ls e => ∀ depth, Reads (expr (operand (depth + 1))) EndsExpr ls e)
          lexemes es := exists_lexemes hes
  refine ⟨_, (Lexeme.spells_commas hspells).call hf, ?_, fun rest => rfl⟩
  intro depth rest _
  have hfollows := hreads.imp fun ls e he =>
    follows_comma (fun rest => (ends_mark (by decide) rest).1) (he (depth + 1))
  have hitems := read_list hfollows hne (ends_mark (c := ')') (by decide) rest).1 rfl
  simpa using read_term_call f hitems

/-- The term of every token is read back. -/
lemma readable_termOf (b : Body) : Readable (termOf b) := by
  cases b with
  | sigil t | number t | block t | plain t => exact readable_text t
  | field n => exact readable_field n
  | fieldFromEnd n =>
    refine readable_call (by decide) (by simp) ?_
    simpa using exprReadable_number n
  | range first last =>
    refine readable_call (by decide) (by simp) ?_
    simpa using ⟨exprReadable_endExpr (exprReadable_number 1) first,
      exprReadable_endExpr (exprReadable_name (by decide)) last⟩
  | invalid t => exact readable_emptyTerm

/-! ## Whole actions -/

/-- Terms side by side are read back as one print argument. -/
lemma exists_reads_argument {ts : List Term} (hne : ts ≠ []) (hts : ∀ t ∈ ts, Readable t) :
    ∃ ls, Lexeme.Spells (" ".intercalate (ts.map Term.render)) ls ∧
      ∀ depth, Reads (argument (operand (depth + 2))) EndsArgument ls ts := by
  obtain ⟨lexemes, hspells, hreads⟩ : ∃ lexemes,
      List.Forall₂ Lexeme.Spells (ts.map Term.render) lexemes ∧
        List.Forall₂ (fun ls t => (∀ depth, Reads (term (operand (depth + 2))) EndsSum ls t) ∧
          ∀ rest, opensTerm (ls ++ rest)) lexemes ts := exists_lexemes hts
  refine ⟨_, Lexeme.spells_blanks hspells, ?_⟩
  intro depth rest hrest
  have hfollows := hreads.imp fun ls t ht => follows_term (ht.1 depth) ht.2
  exact read_list hfollows hne hrest.1 hrest.2

/-- The text of an action that prints some arguments. -/
def actionText (arguments : List (List Term)) : String :=
  "\x7b print " ++ ", ".intercalate
    (arguments.map fun ts => " ".intercalate (ts.map Term.render)) ++ " \x7d"

/-- An action of readable terms is read back, argument by argument. -/
lemma readAction?_actionText {arguments : List (List Term)} (hne : arguments ≠ [])
    (harguments : ∀ ts ∈ arguments, ts ≠ [] ∧ ∀ t ∈ ts, Readable t) :
    readAction? (actionText arguments) = some arguments := by
  obtain ⟨lexemes, hspells, hreads⟩ : ∃ lexemes,
      List.Forall₂ Lexeme.Spells
        (arguments.map fun ts => " ".intercalate (ts.map Term.render)) lexemes ∧
          List.Forall₂ (fun ls ts =>
            ∀ depth, Reads (argument (operand (depth + 2))) EndsArgument ls ts)
              lexemes arguments :=
    exists_lexemes fun ts hts => exists_reads_argument (harguments ts hts).1 (harguments ts hts).2
  have hfollows := hreads.imp fun ls ts h =>
    follows_comma (fun rest => (ends_mark (by decide) rest).2)
      (h (List.intercalate [Lexeme.mark ','] lexemes ++ [Lexeme.mark '}']).length)
  have hitems := read_list hfollows hne (ends_mark (c := '}') (by decide) []).2 rfl
  have hlexed : Lexeme.ofChars? (actionText arguments).toList =
      some (.mark '{' :: .keyword "print" ::
        (List.intercalate [.mark ','] lexemes ++ [.mark '}'])) := by
    generalize hbody : ", ".intercalate
      (arguments.map fun ts => " ".intercalate (ts.map Term.render)) = body
    have hsplit : (actionText arguments).toList =
        '{' :: ' ' :: 'p' :: (['r', 'i', 'n', 't'] ++ ' ' :: (body.toList ++ [' ', '}'])) := by
      simp [actionText, hbody]
    have hbodySpells := Lexeme.spells_commas hspells
    rw [hbody] at hbodySpells
    rw [hsplit, Lexeme.ofChars?_mark (by decide), Lexeme.ofChars?_blank,
      Lexeme.ofChars?_word (by decide) (by decide) (by decide) (by simp [Lexeme.isNameChar]),
      Lexeme.ofChars?_blank, hbodySpells _ (Lexeme.delimits_cons (by decide)),
      Lexeme.ofChars?_blank, Lexeme.ofChars?_mark (by decide), Lexeme.ofChars?_nil]
    rfl
  rw [readAction?, hlexed]
  exact action?_print hitems

/-! ## Compiled programs -/

/-- The terms that an argument prints: the empty text if it has no tokens. -/
def filled (ts : List Term) : List Term :=
  if ts.isEmpty then [emptyTerm] else ts

/-- Adds the empty text to the last argument, and alone makes it the only one. -/
def closed : List (List Term) → List (List Term)
  | [] => [[emptyTerm]]
  | [ts] => [ts ++ [emptyTerm]]
  | ts :: us :: rest => ts :: closed (us :: rest)

/-- The terms of a group. -/
def groupTerms (g : Group) : List Term :=
  g.tokens.map fun t => termOf t.body

/-- The program of some groups, all of whose tokens have fragments. -/
def compiled (groups : List Group) : Program where
  groups := groups.map fun g => (groupTerms g).map Term.render

@[simp] lemma render_emptyTerm : emptyTerm.render = emptyLiteral := by
  decide

lemma filled_ne_nil (ts : List Term) : filled ts ≠ [] := by
  unfold filled
  split
  · simp
  · simp_all

lemma expression_map_render (ts : List Term) :
    Program.expression (ts.map Term.render) = " ".intercalate ((filled ts).map Term.render) := by
  cases ts with
  | nil => simp [Program.expression, filled]
  | cons t ts => simp [Program.expression, filled]

/-- The empty literal at the end of a program is the empty text after the last argument. -/
lemma closeLast_map_render {arguments : List (List Term)}
    (h : ∀ ts ∈ arguments, ts ≠ []) :
    Program.closeLast (arguments.map fun ts => " ".intercalate (ts.map Term.render)) =
      (closed arguments).map fun ts => " ".intercalate (ts.map Term.render) := by
  induction arguments with
  | nil => simp [Program.closeLast, closed]
  | cons ts arguments ih =>
    cases arguments with
    | nil =>
      have hne : ts ≠ [] := h ts List.mem_cons_self
      simp only [closed, List.map_cons, List.map_nil, Program.closeLast, List.map_append]
      rw [String.intercalate_append_of_ne_nil (by simpa using hne) (by simp)]
      simp
    | cons us arguments =>
      have htail := ih fun ts' hts' => h ts' (List.mem_cons_of_mem ts hts')
      simp only [closed, List.map_cons, Program.closeLast] at htail ⊢
      rw [htail]

lemma action_compiled (groups : List Group) :
    (compiled groups).action = actionText (closed (groups.map fun g => filled (groupTerms g))) := by
  have hexpressions : (compiled groups).groups.map Program.expression =
      (groups.map fun g => filled (groupTerms g)).map
        fun ts => " ".intercalate (ts.map Term.render) := by
    simp [compiled, expression_map_render, Function.comp_def]
  rw [Program.action, Program.printArguments, hexpressions, closeLast_map_render, actionText]
  intro ts hts
  obtain ⟨g, -, rfl⟩ := List.mem_map.mp hts
  exact filled_ne_nil _

lemma closed_ne_nil (arguments : List (List Term)) : closed arguments ≠ [] := by
  match arguments with
  | [] => simp [closed]
  | [ts] => simp [closed]
  | ts :: us :: rest => simp [closed]

/-- Closing keeps what holds of all arguments, if it holds with the empty text added. -/
lemma forall_mem_closed {P : List Term → Prop} (hempty : P [emptyTerm])
    (hclose : ∀ ts, P ts → P (ts ++ [emptyTerm])) {arguments : List (List Term)}
    (h : ∀ ts ∈ arguments, P ts) : ∀ ts ∈ closed arguments, P ts := by
  induction arguments with
  | nil => simpa [closed] using hempty
  | cons ts arguments ih =>
    cases arguments with
    | nil => simpa [closed] using hclose ts (h ts List.mem_cons_self)
    | cons us arguments =>
      rw [closed, List.forall_mem_cons]
      exact ⟨h ts List.mem_cons_self, ih fun ts' hts' => h ts' (List.mem_cons_of_mem ts hts')⟩

/-- Awk reads the action of a compiled program as the terms of its arguments. -/
lemma readAction?_action (groups : List Group) :
    readAction? (compiled groups).action =
      some (closed (groups.map fun g => filled (groupTerms g))) := by
  rw [action_compiled]
  refine readAction?_actionText (closed_ne_nil _) (forall_mem_closed ?_ ?_ ?_)
  · simpa using readable_emptyTerm
  · rintro ts ⟨-, hts⟩
    refine ⟨by simp, ?_⟩
    simp only [List.mem_append, List.mem_singleton]
    rintro t (ht | rfl)
    · exact hts t ht
    · exact readable_emptyTerm
  · intro ts hts
    obtain ⟨g, -, rfl⟩ := List.mem_map.mp hts
    refine ⟨filled_ne_nil _, ?_⟩
    unfold filled
    split
    · simpa using readable_emptyTerm
    · intro t ht
      obtain ⟨token, -, rfl⟩ := List.mem_map.mp ht
      exact readable_termOf token.body

/-! ## Compilation -/

/-- A token compiles, to the text of its term, unless it is invalid. -/
lemma compileToken_eq_ok_iff {argument : String} {t : Token} (hnat : t.body.Natural)
    {s : String} : compileToken argument t = .ok s ↔
      t.body.kind ≠ .invalidField ∧ s = (termOf t.body).render := by
  rw [ne_eq, ← ofBody?_eq_none_iff, compileToken]
  cases hf : Fragment.ofBody? t.body with
  | none => simp
  | some f => simp [← render_of_ofBody? hnat hf, eq_comm]

/-- Groups compile exactly when none of their tokens is invalid, and then to the texts of their
terms. -/
lemma ofGroups_eq_ok_iff {groups : List Group}
    (hnat : ∀ g ∈ groups, ∀ t ∈ g.tokens, t.body.Natural) {p : Program} :
    Program.ofGroups groups = .ok p ↔ AllValid groups ∧ p = compiled groups := by
  have hgroup : ∀ g ∈ groups, ∀ fragments, compileGroup g = .ok fragments ↔
      (∀ t ∈ g.tokens, t.body.kind ≠ .invalidField) ∧
        fragments = (groupTerms g).map Term.render := by
    intro g hg fragments
    rw [compileGroup, mapM_eq_ok_iff_map fun t ht s => compileToken_eq_ok_iff (hnat g hg t ht)]
    simp [groupTerms, Function.comp_def]
  rw [Program.ofGroups, map_eq_ok_iff]
  constructor
  · rintro ⟨fragments, hfragments, rfl⟩
    obtain ⟨hvalid, rfl⟩ := (mapM_eq_ok_iff_map hgroup).mp hfragments
    exact ⟨hvalid, rfl⟩
  · rintro ⟨hvalid, rfl⟩
    exact ⟨_, (mapM_eq_ok_iff_map hgroup).mpr ⟨hvalid, rfl⟩, rfl⟩

/-! ## The last line of a program -/

/-- The last line of a text that ends with a line end. -/
def lastLine (text : String) : String :=
  String.ofList ((text.toList.reverse.drop 1).takeWhile (· ≠ '\n')).reverse

lemma lastLine_append {before line : String} (h : '\n' ∉ line.toList) :
    lastLine (before ++ "\n" ++ line ++ "\n") = line := by
  have hreverse : (before ++ "\n" ++ line ++ "\n").toList.reverse.drop 1 =
      line.toList.reverse ++ '\n' :: before.toList.reverse := by
    simp
  have htake : (line.toList.reverse ++ '\n' :: before.toList.reverse).takeWhile (· ≠ '\n') =
      line.toList.reverse := by
    rw [List.takeWhile_append_of_pos]
    · simp
    · intro c hc
      simp only [decide_eq_true_eq]
      rintro rfl
      exact h (List.mem_reverse.mp hc)
  rw [lastLine, hreverse, htake, List.reverse_reverse, String.ofList_toList]

/-- The main action is the last line of a compiled program. -/
lemma lastLine_render_compiled (groups : List Group) :
    lastLine (compiled groups).render = (compiled groups).action := by
  refine lastLine_append ?_
  obtain ⟨ls, hls, -⟩ := Option.bind_eq_some_iff.mp (readAction?_action groups)
  exact Lexeme.newline_not_mem_of_ofChars? hls

end PrintSpec.Awk
