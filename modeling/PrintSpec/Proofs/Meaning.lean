import PrintSpec.Proofs.Awk.Compiled
import PrintSpec.Proofs.Awk.Routines

/-!
# Compilation preserves meaning

A print specification has a meaning of its own, which speaks of records and fields and not of awk:
every token denotes a text (`denote`), an argument denotes the texts of its tokens put together,
and the specification prints its arguments with the output separator between them.  The main result
is that awk, when it reads and runs the last line of the generated program, prints exactly that, for
every record and all separators.

The proof goes through the terms of the tokens.  `Awk/Compiled` says that awk reads the program as
these terms, and `eval_termOf` that each of them has the value that its token denotes.
-/

namespace PrintSpec

open PrintSpec.Awk

/-! ## What a specification denotes -/

/-- The number of the field at which a range end stands. -/
def endNumber (r : InputRecord) (bound : Option Bound) (missing : Int) : Int :=
  match bound with
  | none => missing
  | some b => if b.fromEnd then r.fields.length - b.value + 1 else b.value

/-- The text that a token denotes for a record.  An invalid specification denotes nothing. -/
def denote (r : InputRecord) (ofs : String) : Body → String
  | .sigil t | .number t | .block t | .plain t => t
  | .field number => if number = 0 then r.whole else r.fieldAt number
  | .fieldFromEnd distance => r.fieldAt (r.fields.length - distance + 1)
  | .range first last =>
    let numbers := between r.fields.length (endNumber r first 1)
      (endNumber r last r.fields.length)
    ofs.intercalate (numbers.map fun i : Nat => r.fieldAt i)
  | .invalid _ => ""

/-- The text that an argument denotes: the texts of its tokens, with nothing between them. -/
def Group.denote (r : InputRecord) (ofs : String) (g : Group) : String :=
  String.join (g.tokens.map fun t => PrintSpec.denote r ofs t.body)

/-- What awk prints for a record when it runs the last line of a program, with loops of up to a
number of rounds. -/
def printed? (r : InputRecord) (ofs ors : String) (rounds : Nat) (program : String) :
    Option String :=
  (readAction? (lastLine program)).bind (print? r ofs ors rounds)

/-! ## The empty text does not show -/

lemma argumentText?_append {m : Machine} {ts us : List Term} {s t : String}
    (hs : argumentText? m ts = some s) (ht : argumentText? m us = some t) :
    argumentText? m (ts ++ us) = some (s ++ t) := by
  obtain ⟨ds, hds, hs⟩ := Option.bind_eq_some_iff.mp hs
  obtain ⟨es, hes, ht⟩ := Option.bind_eq_some_iff.mp ht
  cases hs
  cases ht
  simp [argumentText?, hds, hes]

lemma argumentText?_emptyTerm (m : Machine) : argumentText? m [emptyTerm] = some "" := by
  rfl

lemma argumentText?_filled {m : Machine} {ts : List Term} {s : String}
    (h : argumentText? m ts = some s) : argumentText? m (filled ts) = some s := by
  cases ts with
  | nil =>
    cases h
    rfl
  | cons t ts => exact h

/-- The empty text at the end does not show. -/
lemma mapM_argumentText?_closed {m : Machine} {arguments : List (List Term)}
    {texts : List String} (hne : arguments ≠ [])
    (h : List.Forall₂ (fun ts s => argumentText? m ts = some s) arguments texts) :
    (closed arguments).mapM (argumentText? m) = some texts := by
  induction h with
  | nil => exact absurd rfl hne
  | @cons ts s arguments texts hs htail ih =>
    cases htail with
    | nil =>
      have := argumentText?_append hs (argumentText?_emptyTerm m)
      rw [String.append_empty] at this
      simp [closed, this]
    | @cons us t arguments texts ht htail =>
      rw [closed, List.mapM_cons, hs, ih (by simp)]
      rfl

/-! ## Terms have the value of their tokens -/

lemma eval_endExpr {r : InputRecord} {ofs : String} {rounds : Nat} {bound : Option Bound}
    (h : NaturalEnd bound) {missing : Expr} {n : Int}
    (hmissing : missing.eval (r.machine ofs rounds) [] = some (.number n)) :
    (endExpr bound missing).eval (r.machine ofs rounds) [] =
      some (.number (endNumber r bound n)) := by
  cases bound with
  | none => exact hmissing
  | some b =>
    have hvalue : (b.value.toNat : Int) = b.value := Int.toNat_of_nonneg (h b rfl)
    cases hend : b.fromEnd with
    | false => simp [endExpr, endNumber, hend, hvalue]
    | true => simp [endExpr, endNumber, hend, hvalue]

lemma eval_call {m : Machine} {routine : Routine} (hroutine : routine ∈ routines)
    {es : List Expr} {ds : List Datum} (hes : es.mapM (Expr.eval m []) = some ds) :
    (Term.call routine.name es).eval m = routine.call m ds := by
  have hfind : routines.find? (·.name = routine.name) = some routine := by
    simp only [routines, List.mem_cons, List.not_mem_nil, or_false] at hroutine
    rcases hroutine with rfl | rfl <;> rfl
  rw [Term.eval, hfind, hes]
  rfl

section

variable {r : InputRecord} (ofs : String) {rounds : Nat} (hrounds : r.fields.length ≤ rounds)

include hrounds

/-- The term of a token has the text as its value that the token denotes. -/
lemma eval_termOf {b : Body} (h : b.Natural) :
    (termOf b).eval (r.machine ofs rounds) = some (.text (denote r ofs b)) := by
  cases b with
  | sigil t | number t | block t | plain t | invalid t => rfl
  | field n =>
    have hfield : r.field? n = some (denote r ofs (.field n)) := by
      by_cases hn : n = 0
      · simp [InputRecord.field?, denote, hn]
      · have hnneg : ¬ (n : Int) < 0 := by omega
        simp [InputRecord.field?, denote, hn, hnneg]
    change ((r.field? n).bind fun s => some (Datum.text s)) = _
    rw [hfield]
    rfl
  | fieldFromEnd n =>
    have hcall := call_fieldFromEnd (r.machine ofs rounds) n
      (s := r.fieldAt (r.fields.length - n + 1)) (r.field?_machine_of_pos ofs rounds)
    have harguments : [Expr.number n].mapM (Expr.eval (r.machine ofs rounds) []) =
        some [.number n] := rfl
    rw [termOf, eval_call (by simp [routines]) harguments, hcall,
      InputRecord.fieldCount_machine, denote]
    split
    · rename_i hlt
      rw [r.fieldAt_of_lt_one hlt]
    · rfl
  | range first last =>
    have hone : (Expr.number 1).eval (r.machine ofs rounds) [] = some (.number 1) := rfl
    have hcount : (Expr.name "NF").eval (r.machine ofs rounds) [] =
        some (.number r.fields.length) := rfl
    have hfirst := eval_endExpr h.1 hone
    have hlast := eval_endExpr h.2 hcount
    have harguments : [endExpr first (.number 1), endExpr last (.name "NF")].mapM
        (Expr.eval (r.machine ofs rounds) []) = some [.number (endNumber r first 1),
          .number (endNumber r last r.fields.length)] := by
      simp [hfirst, hlast]
    have hread : ∀ i : Nat, 1 ≤ i → i ≤ (r.machine ofs rounds).fieldCount →
        (r.machine ofs rounds).field? i = some (r.fieldAt i) :=
      fun i hi _ => r.field?_machine_of_pos ofs rounds (by omega)
    rw [termOf, eval_call (by simp [routines]) harguments, call_joinRange _ hrounds hread,
      InputRecord.fieldCount_machine, InputRecord.separator_machine]
    rfl

lemma mapM_eval_termOf {tokens : List Token} (h : ∀ t ∈ tokens, t.body.Natural) :
    (tokens.map fun t => termOf t.body).mapM (Term.eval (r.machine ofs rounds)) =
      some (tokens.map fun t => .text (denote r ofs t.body)) := by
  induction tokens with
  | nil => rfl
  | cons t tokens ih =>
    rw [List.forall_mem_cons] at h
    rw [List.map_cons, List.mapM_cons, eval_termOf ofs hrounds h.1, ih h.2]
    rfl

/-- The terms of an argument print the text that the argument denotes. -/
lemma argumentText?_groupTerms {g : Group} (h : ∀ t ∈ g.tokens, t.body.Natural) :
    argumentText? (r.machine ofs rounds) (groupTerms g) = some (g.denote r ofs) := by
  rw [argumentText?, groupTerms, mapM_eval_termOf ofs hrounds h]
  simp [Group.denote, Function.comp_def]

/-- Awk prints what the groups denote, with the separators that hold. -/
lemma print?_closed (ors : String) {groups : List Group}
    (h : ∀ g ∈ groups, ∀ t ∈ g.tokens, t.body.Natural) :
    print? r ofs ors rounds (closed (groups.map fun g => filled (groupTerms g))) =
      some (ofs.intercalate (groups.map (Group.denote r ofs)) ++ ors) := by
  have htexts : ∃ texts, (closed (groups.map fun g => filled (groupTerms g))).mapM
      (argumentText? (r.machine ofs rounds)) = some texts ∧
        ofs.intercalate texts = ofs.intercalate (groups.map (Group.denote r ofs)) := by
    cases groups with
    | nil => exact ⟨[""], rfl, rfl⟩
    | cons g groups =>
      refine ⟨_, mapM_argumentText?_closed (by simp) ?_, rfl⟩
      rw [List.forall₂_map_left_iff, List.forall₂_map_right_iff, List.forall₂_same]
      exact fun g hg => argumentText?_filled (argumentText?_groupTerms ofs hrounds (h g hg))
  obtain ⟨texts, hmap, hjoin⟩ := htexts
  rw [print?, if_neg (by simpa using closed_ne_nil _), hmap, ← hjoin]
  rfl

end

/-- The text of a program before its last line: an opening, and the routines that a call runs. -/
lemma prelude_eq : prelude =
    ("BEGIN \x7b " ++ followSeparator.render ++ " \x7d") ++ "\n" ++
      "\n".intercalate (routines.map Routine.render) :=
  String.intercalate_cons_cons

/-- **Compilation preserves meaning.**  Where the arguments of a print specification are read and
none of their tokens is invalid, they compile to a program that defines the helper routines before
its last line, and awk prints for every record, whatever the output separators are, what the
arguments denote, with the field separator between them and the record separator after them.  As
many rounds for each loop as the record has fields are enough. -/
theorem generated_program_prints_denotation (args : List String) (groups : List Group)
    (hgroups : Group.ofArguments args = .ok groups)
    (hvalid : ∀ g ∈ groups, ∀ t ∈ g.tokens, t.body.kind ≠ .invalidField) :
    ∃ p, Program.ofGroups groups = .ok p ∧
      (∃ opening, p.render = opening ++ "\n" ++ "\n".intercalate (routines.map Routine.render) ++
        "\n" ++ lastLine p.render ++ "\n") ∧
      ∀ (r : InputRecord) (ofs ors : String) (rounds : Nat), r.fields.length ≤ rounds →
        printed? r ofs ors rounds p.render =
          some (ofs.intercalate (groups.map (Group.denote r ofs)) ++ ors) := by
  have hnat := Group.natural_of_ofArguments hgroups
  refine ⟨compiled groups, (ofGroups_eq_ok_iff hnat).mpr ⟨hvalid, rfl⟩, ?_, ?_⟩
  · rw [lastLine_render_compiled]
    exact ⟨_, congrArg (· ++ "\n" ++ (compiled groups).action ++ "\n") prelude_eq⟩
  · intro r ofs ors rounds hrounds
    rw [printed?, lastLine_render_compiled, readAction?_action]
    exact print?_closed ofs hrounds ors hnat

/-- The arguments `2%{-2:}` and `@{a"}` for the record `x y z`, with a dash between fields. -/
theorem generated_program_prints_range_and_quote :
    ∃ groups, Group.ofArguments ["2%\x7b-2:\x7d", "@\x7ba\"\x7d"] = .ok groups ∧
      (∀ g ∈ groups, ∀ t ∈ g.tokens, t.body.kind ≠ .invalidField) ∧
      ∃ p, Program.ofGroups groups = .ok p ∧
        printed? ⟨["x", "y", "z"], "x y z"⟩ "-" "\n" 3 p.render = some "yy-z-a\"\n" := by
  have hgroups : Group.ofArguments ["2%\x7b-2:\x7d", "@\x7ba\"\x7d"] = .ok
      [⟨"2%\x7b-2:\x7d", [⟨"2", .field 2⟩, ⟨"%\x7b-2:\x7d", .range (some ⟨2, true⟩) none⟩]⟩,
        ⟨"@\x7ba\"\x7d", [⟨"@\x7ba\"\x7d", .block "a\""⟩]⟩] := by
    cbv
  obtain ⟨p, hp, -, hprinted⟩ := generated_program_prints_denotation _ _ hgroups (by decide)
  exact ⟨_, hgroups, by decide, p, hp, hprinted ⟨["x", "y", "z"], "x y z"⟩ "-" "\n" 3 (by decide)⟩

end PrintSpec
