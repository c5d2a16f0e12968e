import PrintSpec.Awk.Quote

/-!
# Awk routines

The helper functions of a program are kept as data: expressions, statements, and routines made of
them.  Their text follows from one rule, that an operand stands in parentheses exactly where it
binds more loosely than its place allows.
-/

namespace PrintSpec.Awk

/-- An awk expression. -/
inductive Expr where
  | number (value : Nat)
  | text (meaning : String)
  | name (id : String)
  /-- The field whose number an expression gives. -/
  | field (index : Expr)
  | add (a b : Expr)
  | sub (a b : Expr)
  /-- Two texts, one after the other. -/
  | join (a b : Expr)
  | less (a b : Expr)
  | greater (a b : Expr)
  | atMost (a b : Expr)
  | equal (a b : Expr)
  | choose (condition yes no : Expr)
  deriving DecidableEq, Repr

namespace Expr

/-- How loosely an expression binds: an operand alone, a sum, texts side by side, a comparison, a
choice. -/
def level : Expr → Nat
  | number _ | text _ | name _ | field _ => 0
  | add _ _ | sub _ _ => 1
  | join _ _ => 2
  | less _ _ | greater _ _ | atMost _ _ | equal _ _ => 3
  | choose _ _ _ => 4

/-- The text of an expression at a place that takes expressions up to a level without
parentheses. -/
def renderAt (limit : Nat) (e : Expr) : String :=
  let text := match e with
    | number value => toString value
    | text meaning => quote meaning
    | name id => id
    | field index => "$" ++ index.renderAt 0
    | add a b => a.renderAt 1 ++ " + " ++ b.renderAt 0
    | sub a b => a.renderAt 1 ++ " - " ++ b.renderAt 0
    | join a b => a.renderAt 2 ++ " " ++ b.renderAt 1
    | less a b => a.renderAt 2 ++ " < " ++ b.renderAt 2
    | greater a b => a.renderAt 2 ++ " > " ++ b.renderAt 2
    | atMost a b => a.renderAt 2 ++ " <= " ++ b.renderAt 2
    | equal a b => a.renderAt 2 ++ " == " ++ b.renderAt 2
    | choose condition yes no =>
      condition.renderAt 0 ++ " ? " ++ yes.renderAt 3 ++ " : " ++ no.renderAt 4
  if limit < e.level then "(" ++ text ++ ")" else text

/-- The text of an expression that stands by itself. -/
def render (e : Expr) : String :=
  e.renderAt 4

end Expr

/-- An awk statement. -/
inductive Stmt where
  | assign (id : String) (value : Expr)
  | advance (id : String)
  | ifThen (condition : Expr) (body : Stmt)
  /-- Runs a first statement, and then, while a condition holds, a body and a step. -/
  | loop (first : Stmt) (condition : Expr) (step body : Stmt)
  | result (value : Expr)
  deriving DecidableEq, Repr

/-- The text of a statement. -/
def Stmt.render : Stmt → String
  | .assign id value => id ++ " = " ++ value.render
  | .advance id => id ++ "++"
  | .ifThen condition body => "if (" ++ condition.render ++ ") " ++ body.render
  | .loop first condition step body =>
    "for (" ++ first.render ++ "; " ++ condition.render ++ "; " ++ step.render ++ ") " ++
      body.render
  | .result value => "return " ++ value.render

/-- A function of an awk program. -/
structure Routine where
  name : String
  parameters : List String
  /-- The variables of its own, which awk writes as further parameters. -/
  locals : List String
  body : List Stmt
  deriving DecidableEq, Repr

/-- The text of a routine.  A wide gap sets its own variables apart from the parameters. -/
def Routine.render (r : Routine) : String :=
  "function " ++ r.name ++ "(" ++ ", ".intercalate r.parameters ++ ",    " ++
    ", ".intercalate r.locals ++ ") \x7b\n" ++
    String.join (r.body.map fun s => "    " ++ s.render ++ "\n") ++ "\x7d"

/-! ## The routines of every program -/

/-- The helper that finds a field counted from the end. -/
def fieldFromEnd : Routine where
  name := "_fp_field_from_end"
  parameters := ["n"]
  locals := ["i"]
  body :=
    [.assign "i" (.add (.sub (.name "NF") (.name "n")) (.number 1)),
     .result (.choose (.less (.name "i") (.number 1)) (.text "") (.field (.name "i")))]

/-- The helper that joins a range of fields. -/
def joinRange : Routine where
  name := "_fp_range"
  parameters := ["first", "last"]
  locals := ["out", "i"]
  body :=
    [.ifThen (.less (.name "first") (.number 1)) (.assign "first" (.number 1)),
     .ifThen (.greater (.name "last") (.name "NF")) (.assign "last" (.name "NF")),
     .ifThen (.greater (.name "first") (.name "last")) (.result (.text "")),
     .assign "out" (.field (.name "first")),
     .loop (.assign "i" (.add (.name "first") (.number 1)))
       (.atMost (.name "i") (.name "last")) (.advance "i")
       (.assign "out" (.join (.join (.name "out") (.name "OFS")) (.field (.name "i")))),
     .result (.name "out")]

end PrintSpec.Awk
