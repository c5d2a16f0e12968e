import PrintSpec.Proofs.Awk.Routines

/-!
# The range routine, on machines that refuse

What a routine reads is stated through machines that refuse to read.  A refused read stops the run,
so a run that has a result on a machine which refuses some fields has read none of them.  For this to
say something about every other machine, results must not depend on what is refused:
`Routine.call_mono` says that a machine that answers more, and lets loops take more rounds, gives
every result that a stricter one gives.

So it is enough to run the range routine on the strictest machine on which it can succeed, one that
answers for the selected fields alone and allows its loop no round too many.
-/

namespace PrintSpec.Awk

/-! ## Machines that refuse -/

/-- The second machine gives at least the answers of the first. -/
structure Machine.ExtendedBy (m m' : Machine) : Prop where
  fieldCount : m'.fieldCount = m.fieldCount
  separator : m'.separator = m.separator
  field? : ∀ i s, m.field? i = some s → m'.field? i = some s
  rounds : m.rounds ≤ m'.rounds

/-- A machine that reads a field only where it is allowed. -/
def Machine.within (m : Machine) (allowed : Int → Prop) [DecidablePred allowed] : Machine :=
  { m with field? := fun i => if allowed i then m.field? i else none }

section

variable (m : Machine) {allowed : Int → Prop} [DecidablePred allowed] {i : Int}

lemma Machine.field?_within (hi : allowed i) : (m.within allowed).field? i = m.field? i :=
  if_pos hi

lemma Machine.field?_within_of_not (hi : ¬allowed i) : (m.within allowed).field? i = none :=
  if_neg hi

end

/-- More rounds, and a test and a step that answer more, keep the result of a loop. -/
lemma repeatWhile_mono {test test' : Frame → Option Bool} {step step' : Frame → Option Progress}
    (htest : ∀ vars b, test vars = some b → test' vars = some b)
    (hstep : ∀ vars p, step vars = some p → step' vars = some p) {rounds rounds' : Nat}
    (hrounds : rounds ≤ rounds') {vars : Frame} {p : Progress}
    (hp : repeatWhile test step rounds vars = some p) :
    repeatWhile test' step' rounds' vars = some p := by
  induction rounds generalizing rounds' vars with
  | zero =>
    simp only [repeatWhile, Option.bind_eq_bind, Option.bind_eq_some_iff] at hp
    obtain ⟨b, hb, hp⟩ := hp
    cases b with
    | true => cases hp
    | false => cases rounds' <;> simpa [repeatWhile, htest vars false hb] using hp
  | succ rounds ih =>
    obtain ⟨rounds', rfl⟩ : ∃ more, rounds' = more + 1 := ⟨rounds' - 1, by omega⟩
    simp only [repeatWhile, Option.bind_eq_bind, Option.bind_eq_some_iff] at hp ⊢
    obtain ⟨b, hb, hp⟩ := hp
    refine ⟨b, htest vars b hb, ?_⟩
    cases b with
    | false => exact hp
    | true =>
      simp only [if_true, Option.bind_eq_some_iff] at hp ⊢
      obtain ⟨q, hq, hp⟩ := hp
      refine ⟨q, hstep vars q hq, ?_⟩
      cases q with
      | goesOn next => exact ih (Nat.le_of_succ_le_succ hrounds) hp
      | ended value => exact hp

section

variable {m m' : Machine} (h : m.ExtendedBy m')

include h

lemma variable?_eq (vars : Frame) (x : String) : m'.variable? vars x = m.variable? vars x := by
  unfold Machine.variable?
  rw [h.fieldCount, h.separator]

lemma Expr.eval_mono (vars : Frame) (e : Expr) {d : Datum} (hd : e.eval m vars = some d) :
    e.eval m' vars = some d := by
  induction e generalizing d with
  | number n => exact hd
  | text s => exact hd
  | name x =>
    rw [Expr.eval, variable?_eq h]
    exact hd
  | field index ih =>
    simp only [Expr.eval, Option.bind_eq_bind, Option.bind_eq_some_iff] at hd ⊢
    obtain ⟨x, hx, i, hi, s, hs, hd⟩ := hd
    exact ⟨x, ih hx, i, hi, s, h.field? i s hs, hd⟩
  | add a b iha ihb | sub a b iha ihb | join a b iha ihb | less a b iha ihb
  | greater a b iha ihb | atMost a b iha ihb | equal a b iha ihb =>
    simp only [Expr.eval, Option.bind_eq_bind, Option.bind_eq_some_iff] at hd ⊢
    obtain ⟨x, hx, y, hy, hd⟩ := hd
    exact ⟨x, iha hx, y, ihb hy, hd⟩
  | choose condition yes no ihc ihy ihn =>
    simp only [Expr.eval, Option.bind_eq_bind, Option.bind_eq_some_iff] at hd ⊢
    obtain ⟨x, hx, b, hb, hd⟩ := hd
    refine ⟨x, ihc hx, b, hb, ?_⟩
    cases b with
    | true => exact ihy hd
    | false => exact ihn hd

lemma Stmt.exec_mono (s : Stmt) {vars : Frame} {p : Progress} (hp : s.exec m vars = some p) :
    s.exec m' vars = some p := by
  induction s generalizing vars p with
  | assign x value =>
    simp only [Stmt.exec, Option.bind_eq_bind, Option.bind_eq_some_iff] at hp ⊢
    obtain ⟨d, hd, hp⟩ := hp
    exact ⟨d, value.eval_mono h vars hd, hp⟩
  | advance x =>
    simpa only [Stmt.exec, variable?_eq h] using hp
  | ifThen condition body ih =>
    simp only [Stmt.exec, Option.bind_eq_bind, Option.bind_eq_some_iff] at hp ⊢
    obtain ⟨d, hd, b, hb, hp⟩ := hp
    refine ⟨d, condition.eval_mono h vars hd, b, hb, ?_⟩
    cases b with
    | true => exact ih hp
    | false => exact hp
  | loop first condition step body ihfirst ihstep ihbody =>
    simp only [Stmt.exec, Option.bind_eq_bind, Option.bind_eq_some_iff] at hp ⊢
    obtain ⟨q, hq, hp⟩ := hp
    refine ⟨q, ihfirst hq, ?_⟩
    cases q with
    | ended value => exact hp
    | goesOn next =>
      refine repeatWhile_mono ?_ ?_ h.rounds hp
      · intro vars b hb
        obtain ⟨d, hd, hb⟩ := Option.bind_eq_some_iff.mp hb
        exact Option.bind_eq_some_iff.mpr ⟨d, condition.eval_mono h vars hd, hb⟩
      · intro vars p hp
        obtain ⟨q, hq, hp⟩ := Option.bind_eq_some_iff.mp hp
        refine Option.bind_eq_some_iff.mpr ⟨q, ihbody hq, ?_⟩
        cases q with
        | ended value => exact hp
        | goesOn next => exact ihstep hp
  | result value =>
    simp only [Stmt.exec, Option.map_eq_some_iff] at hp ⊢
    obtain ⟨d, hd, hp⟩ := hp
    exact ⟨d, value.eval_mono h vars hd, hp⟩

lemma execAll_mono (body : List Stmt) {vars : Frame} {d : Datum}
    (hd : execAll m body vars = some d) : execAll m' body vars = some d := by
  induction body generalizing vars with
  | nil => exact hd
  | cons s rest ih =>
    simp only [execAll, Option.bind_eq_bind, Option.bind_eq_some_iff] at hd ⊢
    obtain ⟨p, hp, hd⟩ := hd
    refine ⟨p, s.exec_mono h hp, ?_⟩
    cases p with
    | goesOn next => exact ih hd
    | ended value => exact hd

/-- **A machine that answers more keeps every result.** -/
lemma Routine.call_mono (r : Routine) {arguments : List Datum} {d : Datum}
    (hd : r.call m arguments = some d) : r.call m' arguments = some d := by
  unfold Routine.call at hd ⊢
  dsimp only at hd ⊢
  split at hd
  · cases hd
  · rename_i hlength
    rw [if_neg hlength]
    exact execAll_mono h r.body hd

end

lemma Machine.within_extendedBy (m : Machine) (allowed : Int → Prop) [DecidablePred allowed] :
    (m.within allowed).ExtendedBy m where
  fieldCount := rfl
  separator := rfl
  field? i s hs := by
    by_cases hi : allowed i
    · rwa [m.field?_within hi] at hs
    · rw [m.field?_within_of_not hi] at hs
      cases hs
  rounds := Nat.le_refl _

/-- A machine for a record that refuses more fields and allows fewer rounds is the stricter one. -/
lemma InputRecord.machine_within_extendedBy (r : InputRecord) (ofs : String) {rounds rounds' : Nat}
    (hrounds : rounds ≤ rounds') {allowed allowed' : Int → Prop} [DecidablePred allowed]
    [DecidablePred allowed'] (hallowed : ∀ i, allowed i → allowed' i) :
    ((r.machine ofs rounds).within allowed).ExtendedBy
      ((r.machine ofs rounds').within allowed') where
  fieldCount := rfl
  separator := rfl
  field? i s hs := by
    by_cases hi : allowed i
    · rw [Machine.field?_within _ hi] at hs
      rw [Machine.field?_within _ (hallowed i hi)]
      exact hs
    · rw [Machine.field?_within_of_not _ hi] at hs
      cases hs
  rounds := hrounds

/-! ## The range routine -/

/-- The numbers of the fields between two ends, once these are brought inside the record. -/
def clamped (count : Nat) (first last : Int) : List Nat :=
  (List.range' 1 count).filter fun i : Nat => max first 1 ≤ i ∧ i ≤ min last count

lemma clamped_eq_between (count : Nat) (first last : Int) :
    clamped count first last = between count first last := by
  refine List.filter_congr fun i hi => ?_
  rw [List.mem_range'_1] at hi
  simp only [decide_eq_decide]
  omega

/-- The range routine gives its result where only the fields between the clamped ends can be read
and the loop may take one round for each of them but the first. -/
lemma call_joinRange_strict (r : InputRecord) (ofs : String) (first last : Int) :
    joinRange.call ((r.machine ofs ((clamped r.fields.length first last).length - 1)).within
        fun i => max first 1 ≤ i ∧ i ≤ min last r.fields.length) [.number first, .number last] =
      some (.text (ofs.intercalate
        ((clamped r.fields.length first last).map fun i : Nat => r.fieldAt i))) := by
  have hinside : ∀ i ∈ clamped r.fields.length first last,
      max first 1 ≤ (i : Int) ∧ (i : Int) ≤ min last r.fields.length := by
    intro i hi
    simpa [clamped] using (List.mem_filter.mp hi).2
  rw [clamped_eq_between] at hinside ⊢
  refine call_joinRange_of_between _ (Nat.le_add_of_sub_le (Nat.le_refl _)) fun i hi => ?_
  have hi' := hinside i hi
  rw [Machine.field?_within _ hi']
  exact r.field?_machine_of_pos ofs _ (by omega)

/-- One separator stands before every text but the first. -/
lemma intercalate_cons_eq_join (separator s : String) (rest : List String) :
    separator.intercalate (s :: rest) = s ++ String.join (rest.map (separator ++ ·)) := by
  induction rest generalizing s with
  | nil => simp
  | cons t rest ih =>
    rw [String.intercalate_cons_cons, ih]
    simp [String.append_assoc]

/-- **The range routine joins the fields between its clamped ends.**  The routine with the text below,
called for any record and separator and with any two integers, has a result as soon as its loop may
take one round for each selected field but the first.  It gives the selected fields in order, with
one separator before each of them but the first, and the empty text if there is none; and it does so
also where no field can be read that is not one of the record's. -/
theorem range_routine_joins_clamped_fields (r : InputRecord) (ofs : String) (first last : Int) :
    joinRange.render =
      "function _fp_range(first, last,    out, i) \x7b\n" ++
      "    if (first < 1) first = 1\n" ++
      "    if (last > NF) last = NF\n" ++
      "    if (first > last) return \"\"\n" ++
      "    out = $first\n" ++
      "    for (i = first + 1; i <= last; i++) out = out OFS $i\n" ++
      "    return out\n" ++
      "\x7d" ∧
    ∃ text : String,
      (∀ rounds : Nat, (clamped r.fields.length first last).length ≤ rounds + 1 →
        joinRange.call (r.machine ofs rounds) [.number first, .number last] = some (.text text) ∧
        joinRange.call ((r.machine ofs rounds).within fun i => 1 ≤ i ∧ i ≤ r.fields.length)
          [.number first, .number last] = some (.text text)) ∧
      text = ofs.intercalate
        ((clamped r.fields.length first last).map fun i : Nat => r.fieldAt i) ∧
      (clamped r.fields.length first last = [] → text = "") ∧
      ∀ i rest, clamped r.fields.length first last = i :: rest →
        text = r.fieldAt i ++ String.join (rest.map fun j : Nat => ofs ++ r.fieldAt j) := by
  refine ⟨by decide +kernel, _, fun rounds hrounds => ?_, rfl, fun hempty => ?_,
    fun i rest hnumbers => ?_⟩
  · have hstricter : ((r.machine ofs ((clamped r.fields.length first last).length - 1)).within
          fun i => max first 1 ≤ i ∧ i ≤ min last r.fields.length).ExtendedBy
        ((r.machine ofs rounds).within fun i => 1 ≤ i ∧ i ≤ r.fields.length) :=
      r.machine_within_extendedBy ofs (Nat.sub_le_of_le_add hrounds) fun i hi => by omega
    have hwithin := joinRange.call_mono hstricter (call_joinRange_strict r ofs first last)
    exact ⟨joinRange.call_mono ((r.machine ofs rounds).within_extendedBy _) hwithin, hwithin⟩
  · rw [hempty]
    rfl
  · rw [hnumbers, List.map_cons, intercalate_cons_eq_join, List.map_map]
    rfl

/-- Ends five and zero from the end of a record with three fields: both lie outside of it. -/
theorem range_routine_joins_whole_record :
    joinRange.call (InputRecord.machine ⟨["a", "b", "c"], "a b c"⟩ "-" 2)
      [.number (3 - 5 + 1), .number (3 - 0 + 1)] = some (.text "a-b-c") := by
  obtain ⟨-, text, hcall, htext, -⟩ :=
    range_routine_joins_clamped_fields ⟨["a", "b", "c"], "a b c"⟩ "-" (3 - 5 + 1) (3 - 0 + 1)
  rw [(hcall 2 (by decide)).1, htext]
  decide

end PrintSpec.Awk
