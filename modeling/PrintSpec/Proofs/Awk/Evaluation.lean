import PrintSpec.Proofs.Awk.Grammar

/-!
# Running a main action

This file gives a meaning to what `Grammar` reads: expressions, the statements of the helper
routines, calls of these routines, and the print action itself.  Numbers are exact integers.  A
value that a step cannot use (a text in a sum, an unknown variable, a field with a negative number)
stops the run, and a stopped run has no result; neither has one with a loop that takes more rounds
than it is given.  So a statement that a run has a result also says that it ends, and how soon, and
that no step of it goes wrong.

A run sees the current record only through a `Machine`: the number of fields, a way to read a field
that may refuse, the output separator, and the number of rounds that a loop may take.
`InputRecord.machine` is how awk reads the fields of a record.  A stricter machine, which refuses
more, is a way to state which fields a routine reads.
-/

namespace PrintSpec.Awk

/-! ## Values -/

/-- A value of awk. -/
inductive Datum where
  | number (n : Int)
  | text (s : String)
  /-- The value of a variable that was never set. -/
  | unset
  deriving DecidableEq, Repr

namespace Datum

/-- The text of a value. -/
@[simp] def shown : Datum → String
  | .number n => toString n
  | .text s => s
  | .unset => ""

/-- The number of a value; a text is not used as a number. -/
@[simp] def number? : Datum → Option Int
  | .number n => some n
  | .text _ => none
  | .unset => some 0

/-- The value of a comparison. -/
def ofBool (b : Bool) : Datum :=
  .number (if b then 1 else 0)

/-- Whether a value counts as true; a text is not used as a condition. -/
def truth? (d : Datum) : Option Bool :=
  d.number?.map (· ≠ 0)

@[simp] lemma truth?_ofBool (b : Bool) : (ofBool b).truth? = some b := by
  cases b <;> rfl

/-- Whether two values are equal; a number and a text are not compared. -/
def equal? : Datum → Datum → Option Bool
  | .number m, .number n => some (m = n)
  | .text s, .text t => some (s = t)
  | _, _ => none

/-- What an operation on numbers gives for two values. -/
@[simp] def onNumbers? (f : Int → Int → Datum) (a b : Datum) : Option Datum := do
  let x ← a.number?
  let y ← b.number?
  some (f x y)

end Datum

/-! ## Records -/

/-- What a run sees of the current record. -/
structure Machine where
  fieldCount : Nat
  /-- Reads a field; a read that is refused stops the run. -/
  field? : Int → Option String
  separator : String
  /-- The number of rounds that a loop may take. -/
  rounds : Nat

/-- An input record: its fields, and its whole text. -/
structure InputRecord where
  /-- The fields, from the first to the last. -/
  fields : List String
  whole : String
  deriving DecidableEq, Repr

namespace InputRecord

/-- The field with a number from one to the number of fields; empty for any other number. -/
def fieldAt (r : InputRecord) (i : Int) : String :=
  if 1 ≤ i then r.fields.getD (i.toNat - 1) "" else ""

/-- How awk reads a field: the number zero is the whole record, a field beyond the last one is
empty, and a negative number stops the run. -/
def field? (r : InputRecord) (i : Int) : Option String :=
  if i < 0 then none else if i = 0 then some r.whole else some (r.fieldAt i)

/-- A record under an output separator, with loops of up to a number of rounds. -/
def machine (r : InputRecord) (separator : String) (rounds : Nat) : Machine :=
  ⟨r.fields.length, r.field?, separator, rounds⟩

section

variable (r : InputRecord) (separator : String) (rounds : Nat)

@[simp] lemma fieldCount_machine :
    (r.machine separator rounds).fieldCount = r.fields.length := rfl

@[simp] lemma separator_machine : (r.machine separator rounds).separator = separator := rfl

lemma field?_machine_of_pos {i : Int} (h : 1 ≤ i) :
    (r.machine separator rounds).field? i = some (r.fieldAt i) := by
  change r.field? i = _
  rw [field?, if_neg (by omega), if_neg (by omega)]

end

lemma fieldAt_of_lt_one (r : InputRecord) {i : Int} (h : i < 1) : r.fieldAt i = "" :=
  if_neg (by omega)

end InputRecord

/-! ## Expressions and statements -/

/-- The variables of a running routine. -/
abbrev Frame := List (String × Datum)

namespace Frame

/-- The value of a variable of the routine. -/
@[simp] def get? (x : String) : Frame → Option Datum
  | [] => none
  | (y, d) :: rest => if y = x then some d else get? x rest

/-- Sets a variable of the routine; no other variable can be set. -/
@[simp] def set? (x : String) (d : Datum) : Frame → Option Frame
  | [] => none
  | (y, e) :: rest => if y = x then some ((y, d) :: rest) else (set? x d rest).map ((y, e) :: ·)

end Frame

/-- The value of a variable: one of the routine, or one of the two that every action has. -/
@[simp] def Machine.variable? (m : Machine) (vars : Frame) (x : String) : Option Datum :=
  (vars.get? x).or
    (if x = "NF" then some (.number m.fieldCount)
     else if x = "OFS" then some (.text m.separator)
     else none)

/-- The value of an expression. -/
@[simp] def Expr.eval (m : Machine) (vars : Frame) : Expr → Option Datum
  | .number n => some (.number n)
  | .text s => some (.text s)
  | .name x => m.variable? vars x
  | .field index => do
    let i ← (← index.eval m vars).number?
    let s ← m.field? i
    some (.text s)
  | .add a b => do
    Datum.onNumbers? (fun x y => .number (x + y)) (← a.eval m vars) (← b.eval m vars)
  | .sub a b => do
    Datum.onNumbers? (fun x y => .number (x - y)) (← a.eval m vars) (← b.eval m vars)
  | .join a b => do
    let x ← a.eval m vars
    let y ← b.eval m vars
    some (.text (x.shown ++ y.shown))
  | .less a b => do
    Datum.onNumbers? (fun x y => .ofBool (x < y)) (← a.eval m vars) (← b.eval m vars)
  | .greater a b => do
    Datum.onNumbers? (fun x y => .ofBool (y < x)) (← a.eval m vars) (← b.eval m vars)
  | .atMost a b => do
    Datum.onNumbers? (fun x y => .ofBool (x ≤ y)) (← a.eval m vars) (← b.eval m vars)
  | .equal a b => do
    let x ← a.eval m vars
    let y ← b.eval m vars
    (x.equal? y).map .ofBool
  | .choose condition yes no => do
    if ← (← condition.eval m vars).truth? then yes.eval m vars else no.eval m vars

/-- How a routine stands after a statement. -/
inductive Progress where
  /-- It goes on with these variables. -/
  | goesOn (vars : Frame)
  /-- It has ended with a value. -/
  | ended (value : Datum)
  deriving DecidableEq, Repr

/-- Goes on with a further step, unless the routine has ended. -/
@[simp] def Progress.andThen (step : Frame → Option Progress) : Progress → Option Progress
  | .goesOn vars => step vars
  | .ended value => some (.ended value)

/-- Repeats a step while a test holds.  A loop that takes more rounds than allowed has no result. -/
def repeatWhile (test : Frame → Option Bool) (step : Frame → Option Progress) :
    Nat → Frame → Option Progress
  | 0, vars => do
    if ← test vars then none else some (.goesOn vars)
  | rounds + 1, vars => do
    if ← test vars then (← step vars).andThen (repeatWhile test step rounds)
    else some (.goesOn vars)

/-- Runs a statement. -/
@[simp] def Stmt.exec (m : Machine) : Stmt → Frame → Option Progress
  | .assign x value, vars => do
    let d ← value.eval m vars
    (vars.set? x d).map .goesOn
  | .advance x, vars => do
    let n ← (← m.variable? vars x).number?
    (vars.set? x (.number (n + 1))).map .goesOn
  | .ifThen condition body, vars => do
    if ← (← condition.eval m vars).truth? then body.exec m vars else some (.goesOn vars)
  | .loop first condition step body, vars => do
    let test := fun vars => (condition.eval m vars).bind Datum.truth?
    let round := fun vars => (body.exec m vars).bind (Progress.andThen (step.exec m))
    (← first.exec m vars).andThen (repeatWhile test round m.rounds)
  | .result value, vars => (value.eval m vars).map .ended

/-- Runs the statements of a routine.  A routine that does not say its result has none set. -/
@[simp] def execAll (m : Machine) : List Stmt → Frame → Option Datum
  | [], _ => some .unset
  | s :: rest, vars => do
    match ← s.exec m vars with
    | .goesOn vars => execAll m rest vars
    | .ended value => some value

/-! ## Calls and the print action -/

/-- Calls a routine.  Its own variables follow its parameters, and those for which the call gives
no value are not set. -/
def Routine.call (m : Machine) (r : Routine) (arguments : List Datum) : Option Datum :=
  let names := r.parameters ++ r.locals
  if names.length < arguments.length then none
  else
    let unset := List.replicate (names.length - arguments.length) Datum.unset
    execAll m r.body (names.zip (arguments ++ unset))

/-- The routines of every program. -/
def routines : List Routine := [fieldFromEnd, joinRange]

/-- The value of a term. -/
def Term.eval (m : Machine) : Term → Option Datum
  | .expr e => e.eval m []
  | .call name arguments => do
    let r ← routines.find? (·.name = name)
    r.call m (← arguments.mapM (Expr.eval m []))

/-- The text of a print argument: the texts of its terms, with nothing between them. -/
def argumentText? (m : Machine) (ts : List Term) : Option String := do
  let values ← ts.mapM (Term.eval m)
  some (String.join (values.map Datum.shown))

/-- What an action prints for a record.  Without any argument that is the record itself. -/
def print? (r : InputRecord) (ofs ors : String) (rounds : Nat) (arguments : List (List Term)) :
    Option String := do
  if arguments.isEmpty then some (r.whole ++ ors)
  else
    let texts ← arguments.mapM (argumentText? (r.machine ofs rounds))
    some (ofs.intercalate texts ++ ors)

end PrintSpec.Awk
