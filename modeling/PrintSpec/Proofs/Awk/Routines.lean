import PrintSpec.Proofs.Awk.Evaluation

/-!
# What the helper routines compute

The two routines of every program, run statement by statement.  `call_fieldFromEnd` and
`call_joinRange` say what a call gives for every number of fields and all integer arguments.  Both
are stated for any machine that can read the fields in question, so they also say which fields a
call reads: the range reads no field outside the record.  Its loop ends within as many rounds as the
record has fields.

The loop of the range is treated by `repeatWhile_of_frames`, which runs a loop along a family of
frames, one for each round.
-/

namespace PrintSpec.Awk

/-! ## Loops -/

/-- A loop whose frames are known for each round ends with the last of them. -/
lemma repeatWhile_of_frames {test : Frame → Option Bool} {step : Frame → Option Progress}
    (frame : Nat → Frame) (n : Nat) (htest : ∀ k < n, test (frame k) = some true)
    (hstep : ∀ k < n, step (frame k) = some (.goesOn (frame (k + 1))))
    (hend : test (frame n) = some false) {rounds : Nat} (hn : n ≤ rounds) :
    repeatWhile test step rounds (frame 0) = some (.goesOn (frame n)) := by
  induction n generalizing frame rounds with
  | zero =>
    cases rounds <;> rw [repeatWhile, hend] <;> rfl
  | succ n ih =>
    obtain ⟨rounds, rfl⟩ : ∃ more, rounds = more + 1 := ⟨rounds - 1, by omega⟩
    have hrest := ih (fun k => frame (k + 1)) (fun k hk => htest (k + 1) (by omega))
      (fun k hk => hstep (k + 1) (by omega)) hend (Nat.le_of_succ_le_succ hn)
    rw [repeatWhile, htest 0 (by omega), hstep 0 (by omega)]
    exact hrest

/-- A loop statement runs along a family of frames, one for each round. -/
lemma exec_loop {m : Machine} {first step body : Stmt} {condition : Expr} {vars : Frame}
    (frame : Nat → Frame) (n : Nat) (hfirst : first.exec m vars = some (.goesOn (frame 0)))
    (htest : ∀ k < n, (condition.eval m (frame k)).bind Datum.truth? = some true)
    (hround : ∀ k < n, (body.exec m (frame k)).bind (Progress.andThen (step.exec m)) =
      some (.goesOn (frame (k + 1))))
    (hend : (condition.eval m (frame n)).bind Datum.truth? = some false) (hn : n ≤ m.rounds) :
    (Stmt.loop first condition step body).exec m vars = some (.goesOn (frame n)) := by
  rw [Stmt.exec, hfirst]
  exact repeatWhile_of_frames frame n htest hround hend hn

lemma execAll_of_goesOn {m : Machine} {s : Stmt} {rest : List Stmt} {vars next : Frame}
    (h : s.exec m vars = some (.goesOn next)) :
    execAll m (s :: rest) vars = execAll m rest next := by
  rw [execAll, h]
  rfl

/-! ## A field counted from the end -/

/-- The routine reads the field at its distance from the end, unless that lies before the first
one. -/
lemma call_fieldFromEnd (m : Machine) (n : Int) {s : String}
    (hread : 1 ≤ (m.fieldCount : Int) - n + 1 →
      m.field? ((m.fieldCount : Int) - n + 1) = some s) :
    fieldFromEnd.call m [.number n] =
      some (.text (if (m.fieldCount : Int) - n + 1 < 1 then "" else s)) := by
  by_cases h : (m.fieldCount : Int) - n + 1 < 1
  · simp [Routine.call, fieldFromEnd, h]
  · simp [Routine.call, fieldFromEnd, h, hread (by omega)]

/-! ## A range of fields -/

/-- The numbers of the fields of a record that lie between two ends. -/
def between (count : Nat) (first last : Int) : List Nat :=
  (List.range' 1 count).filter fun i : Nat => first ≤ i ∧ i ≤ last

lemma filter_range'_eq_nil {s n : Nat} {first last : Int}
    (h : ∀ i : Nat, s ≤ i → i < s + n → i < first ∨ last < i) :
    (List.range' s n).filter (fun i : Nat => first ≤ i ∧ i ≤ last) = [] := by
  rw [List.filter_eq_nil_iff]
  intro i hi
  rw [List.mem_range'_1] at hi
  have := h i hi.1 hi.2
  simp only [decide_eq_true_eq]
  omega

lemma between_eq_nil {count : Nat} {first last : Int} (h : min last count < max first 1) :
    between count first last = [] :=
  filter_range'_eq_nil fun i _ _ => by omega

/-- Between clamped ends that are in order the fields are all those from the one to the other. -/
lemma between_eq_range' {count a b : Nat} {first last : Int} (hab : a ≤ b)
    (ha : max first 1 = a) (hb : min last count = b) :
    between count first last = List.range' a (b + 1 - a) := by
  have hsplit : List.range' 1 count =
      List.range' 1 (a - 1) ++ (List.range' a (b + 1 - a) ++ List.range' (b + 1) (count - b)) := by
    have hinner := List.range'_append_1 (s := a) (m := b + 1 - a) (n := count - b)
    have houter := List.range'_append_1 (s := 1) (m := a - 1) (n := b + 1 - a + (count - b))
    rw [show a + (b + 1 - a) = b + 1 by omega] at hinner
    rw [show 1 + (a - 1) = a by omega,
      show a - 1 + (b + 1 - a + (count - b)) = count by omega] at houter
    rw [hinner, houter]
  have hinside : (List.range' a (b + 1 - a)).filter (fun i : Nat => first ≤ i ∧ i ≤ last) =
      List.range' a (b + 1 - a) := by
    rw [List.filter_eq_self]
    intro i hi
    rw [List.mem_range'_1] at hi
    simp only [decide_eq_true_eq]
    omega
  rw [between, hsplit, List.filter_append, List.filter_append, hinside,
    filter_range'_eq_nil (fun i _ _ => by omega), filter_range'_eq_nil (fun i _ _ => by omega)]
  simp

/-- The variables of the range routine. -/
def rangeFrame (first last : Int) (out i : Datum) : Frame :=
  [("first", .number first), ("last", .number last), ("out", out), ("i", i)]

/-- The first two statements bring the ends inside the record. -/
lemma call_joinRange_clamp (m : Machine) (first last : Int) :
    joinRange.call m [.number first, .number last] =
      execAll m (joinRange.body.drop 2)
        (rangeFrame (max first 1) (min last m.fieldCount) .unset .unset) := by
  have hfirst : max first 1 = if first < 1 then 1 else first := by
    split <;> omega
  have hlast : min last (m.fieldCount : Int) =
      if (m.fieldCount : Int) < last then (m.fieldCount : Int) else last := by
    split <;> omega
  rw [hfirst, hlast]
  by_cases h₁ : first < 1 <;> by_cases h₂ : (m.fieldCount : Int) < last <;>
    simp [Routine.call, joinRange, rangeFrame, h₁, h₂]

/-- The fields that the loop has joined before it reads the field with number `a + 1 + k`. -/
def joinedFields (m : Machine) (field : Nat → String) (a k : Nat) : String :=
  m.separator.intercalate ((List.range' a (k + 1)).map field)

lemma joinedFields_succ (m : Machine) (field : Nat → String) (a k : Nat) :
    joinedFields m field a (k + 1) =
      joinedFields m field a k ++ m.separator ++ field (a + 1 + k) := by
  rw [joinedFields, List.range'_1_concat, List.map_append,
    String.intercalate_append_of_ne_nil (by simp) (by simp)]
  simp [joinedFields, Nat.add_assoc, Nat.add_comm 1 k]

/-- The loop joins all fields from the first end to the last one. -/
lemma exec_joinRange_loop (m : Machine) {field : Nat → String} {a b : Nat} (hab : a ≤ b)
    (hrounds : b - a ≤ m.rounds)
    (hread : ∀ i : Nat, a ≤ i → i ≤ b → m.field? i = some (field i)) :
    (Stmt.loop (.assign "i" (.add (.name "first") (.number 1)))
      (.atMost (.name "i") (.name "last")) (.advance "i")
      (.assign "out" (.join (.join (.name "out") (.name "OFS")) (.field (.name "i"))))).exec m
        (rangeFrame a b (.text (joinedFields m field a 0)) .unset) =
      some (.goesOn (rangeFrame a b (.text (joinedFields m field a (b - a)))
        (.number (a + 1 + (b - a : Nat))))) := by
  -- in round `k` the index is `a + 1 + k`, and `out` holds the fields before it
  apply exec_loop fun k =>
    rangeFrame a b (.text (joinedFields m field a k)) (.number (a + 1 + k))
  · simp [rangeFrame]
  · intro k hk
    have hle : (a : Int) + 1 + k ≤ b := by omega
    simp [rangeFrame, hle]
  · intro k hk
    have hfield : m.field? ((a : Int) + 1 + k) = some (field (a + 1 + k)) := by
      exact_mod_cast hread (a + 1 + k) (by omega) (by omega)
    simp [rangeFrame, joinedFields_succ, hfield, Int.add_assoc ((a : Int) + 1)]
  · have hlt : ¬ (a : Int) + 1 + (b - a : Nat) ≤ b := by omega
    simp [rangeFrame, hlt]
  · exact hrounds

/-- Ends in the wrong order give the empty text. -/
lemma execAll_joinRange_of_lt (m : Machine) {first last : Int} (h : last < first) :
    execAll m (joinRange.body.drop 2) (rangeFrame first last .unset .unset) =
      some (.text "") := by
  simp [joinRange, rangeFrame, h]

/-- Ends inside the record and in order give the fields from the one to the other. -/
lemma execAll_joinRange_of_le (m : Machine) {field : Nat → String} {a b : Nat} (hab : a ≤ b)
    (hrounds : b - a ≤ m.rounds)
    (hread : ∀ i : Nat, a ≤ i → i ≤ b → m.field? i = some (field i)) :
    execAll m (joinRange.body.drop 2) (rangeFrame a b .unset .unset) =
      some (.text (joinedFields m field a (b - a))) := by
  have horder : (Stmt.ifThen (.greater (.name "first") (.name "last"))
      (.result (.text ""))).exec m (rangeFrame a b .unset .unset) =
        some (.goesOn (rangeFrame a b .unset .unset)) := by
    simp [rangeFrame, hab]
  have hout : (Stmt.assign "out" (.field (.name "first"))).exec m
      (rangeFrame a b .unset .unset) =
        some (.goesOn (rangeFrame a b (.text (joinedFields m field a 0)) .unset)) := by
    simp [rangeFrame, hread a (Nat.le_refl a) hab, joinedFields]
  calc execAll m (joinRange.body.drop 2) (rangeFrame a b .unset .unset)
      = execAll m [.result (.name "out")]
          (rangeFrame a b (.text (joinedFields m field a (b - a)))
            (.number (a + 1 + (b - a : Nat)))) :=
        (execAll_of_goesOn horder).trans ((execAll_of_goesOn hout).trans
          (execAll_of_goesOn (exec_joinRange_loop m hab hrounds hread)))
    _ = some (.text (joinedFields m field a (b - a))) := by
        simp [rangeFrame]

/-- The range routine joins the fields of the record that lie between its arguments.  It reads no
other field, and its loop takes one round for each of them but the first. -/
lemma call_joinRange_of_between (m : Machine) {field : Nat → String} {first last : Int}
    (hrounds : (between m.fieldCount first last).length ≤ m.rounds + 1)
    (hread : ∀ i ∈ between m.fieldCount first last, m.field? i = some (field i)) :
    joinRange.call m [.number first, .number last] =
      some (.text (m.separator.intercalate
        ((between m.fieldCount first last).map field))) := by
  rw [call_joinRange_clamp]
  by_cases hempty : min last (m.fieldCount : Int) < max first 1
  · rw [between_eq_nil hempty, execAll_joinRange_of_lt m hempty]
    rfl
  · obtain ⟨a, ha⟩ := Int.eq_ofNat_of_zero_le (show 0 ≤ max first 1 by omega)
    obtain ⟨b, hb⟩ := Int.eq_ofNat_of_zero_le (show 0 ≤ min last (m.fieldCount : Int) by omega)
    have hab : a ≤ b := by omega
    have hbetween := between_eq_range' hab ha hb
    have hinside : ∀ i : Nat, a ≤ i → i ≤ b → m.field? i = some (field i) := by
      intro i hi hi'
      refine hread i ?_
      rw [hbetween, List.mem_range'_1]
      omega
    have hloop : b - a ≤ m.rounds := by
      rw [hbetween, List.length_range'] at hrounds
      omega
    rw [hbetween, ha, hb, execAll_joinRange_of_le m hab hloop hinside, joinedFields,
      show b - a + 1 = b + 1 - a by omega]

lemma length_between_le (count : Nat) (first last : Int) :
    (between count first last).length ≤ count :=
  calc (between count first last).length
      ≤ (List.range' 1 count).length := List.length_filter_le _ _
    _ = count := List.length_range'

/-- As many rounds as the record has fields are enough for every call. -/
lemma call_joinRange (m : Machine) {field : Nat → String} (hrounds : m.fieldCount ≤ m.rounds)
    (hread : ∀ i : Nat, 1 ≤ i → i ≤ m.fieldCount → m.field? i = some (field i))
    (first last : Int) :
    joinRange.call m [.number first, .number last] =
      some (.text (m.separator.intercalate
        ((between m.fieldCount first last).map field))) := by
  refine call_joinRange_of_between m ?_ fun i hi => ?_
  · have := length_between_le m.fieldCount first last
    omega
  · have hrange := List.mem_range'_1.mp (List.mem_filter.mp hi).1
    exact hread i hrange.1 (by omega)

end PrintSpec.Awk
