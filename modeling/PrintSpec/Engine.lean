import PrintSpec.Document.Value

/-!
# Launching the engine

The engine is an outside program.  A launch either ends with an exit code, where a negative code
names the signal that ended it, or the system refuses to start it and says why.

The system says why in parts, which can be any values.  Not all parts make a reason that can be
reported, so `Launch.ofParts` may fail; a `Refusal` always has one.
-/

namespace PrintSpec.Engine

/-! ## Reasons -/

/-- The system's reason for refusing to start a program, with its parts as the system gives
them. -/
inductive Cause where
  /-- Remarks without an error code. -/
  | remarks (notes : List Value)
  /-- An error code with its description, and the paths it is about. -/
  | coded (code description : Value) (paths : List Value)
  deriving BEq, Repr

/-- Why some parts do not make a reason that can be reported. -/
inductive PartsError where
  /-- A count fits no word. -/
  | tooLarge
  /-- A count is not a whole number. -/
  | notWhole
  /-- A number in the reason is too long to be written. -/
  | unwritable
  /-- The reason holds half of a character. -/
  | torn
  deriving DecidableEq, Repr

/-- The wording of each cause. -/
def PartsError.message : PartsError → String
  | .tooLarge => "cannot fit 'int' into an index-sized integer"
  | .notWhole => "a count is not a whole number"
  | .unwritable => Numeral.unwritableMessage
  | .torn => "half of a character cannot be shown"

namespace Cause

/-- Whether an error code says that a program would have to wait. -/
def mustWait (code : Value) : Bool :=
  [Value.int 11, Value.int 114, Value.int 115].contains code

/-- The least number that is too large for a count. -/
def countLimit : Nat := Nat.pow 2 63

/-- Whether a count fits the word in which the system keeps it. -/
def fitsWord (n : Int) : Bool :=
  -(countLimit : Int) ≤ n && n < (countLimit : Int)

/-- Whether the system can keep a part as a count; nothing if the part is not a number. -/
def checkCount? : Value → Option (Except PartsError Unit)
  | .scalar (.int n) => some (if fitsWord n then .ok () else .error .tooLarge)
  | .scalar (.bool _) => some (.ok ())
  | .scalar (.double _) => some (.error .notWhole)
  | _ => none

/-- The paths among the parts after a code and its description: the first of these parts and the
third.  A number in the first place is not a path where the code says to wait: there it counts
what has been written. -/
def pathsOf (code : Value) : List Value → Except PartsError (List Value)
  | [] => .ok []
  | part :: more =>
    if part.isNull then .ok []
    else
      match if mustWait code then checkCount? part else none with
      | some check => check.map fun _ => []
      | none => .ok (part :: (more.drop 1).filter (!·.isNull))

/-- The reason that the system gives in parts.  Two to five parts begin with an error code and its
description; any other number of them are remarks. -/
def ofParts (parts : List Value) : Except PartsError Cause :=
  match parts with
  | code :: description :: rest =>
    if rest.length ≤ 3 then (pathsOf code rest).map (.coded code description ·)
    else .ok (.remarks parts)
  | _ => .ok (.remarks parts)

/-- The description that comes with an error code. -/
def description : Cause → Value
  | .coded _ description _ => description
  | .remarks _ => .null

/-- The code points of the whole reason; nothing if a number in it is too long to be written. -/
def text? : Cause → Option (List Nat)
  | .remarks [] => some []
  | .remarks [note] => note.shown?
  | .remarks notes =>
    if Value.areShowable notes then some (Text.codes ("(" ++ Value.quotedItems notes ++ ")"))
    else none
  | .coded code description paths => do
    let code ← code.shown?
    let description ← description.shown?
    let about ←
      if paths.isEmpty then some ""
      else if Value.areShowable paths then
        some (": " ++ " -> ".intercalate (paths.map Value.quoted))
      else none
    return Text.codes "[Errno " ++ code ++ Text.codes "] " ++ description ++ Text.codes about

/-- The short reason: the description, or the whole text where there is none. -/
def reason? (c : Cause) : Option (List Nat) :=
  if c.description.isTruthy then c.description.shown? else c.text?

end Cause

/-- A reason that can be reported, with its short text. -/
structure Refusal where
  cause : Cause
  reason : String
  reason_eq : cause.reason?.bind Text.charsOf? = some reason.toList

/-- The reason that the system gives in parts, if it can be reported. -/
def Refusal.ofParts (parts : List Value) : Except PartsError Refusal := do
  let cause ← Cause.ofParts parts
  match hcodes : cause.reason? with
  | none => .error .unwritable
  | some codes =>
    match hchars : Text.charsOf? codes with
    | none => .error .torn
    | some cs =>
      return ⟨cause, String.ofList cs, by
        rw [hcodes, Option.bind_some, hchars, String.toList_ofList]⟩

/-! ## Launches -/

/-- How a launch went. -/
inductive Launch where
  | exited (code : Int)
  | refused (why : Refusal)

/-- A refused launch, with the parts of the system's reason. -/
def Launch.ofParts (parts : List Value) : Except PartsError Launch :=
  (Refusal.ofParts parts).map .refused

/-- The failure of a launch. -/
inductive LaunchError where
  | refused (engine : String) (why : Refusal)
  /-- The start failed for a command without any word, so that no engine can be named. -/
  | noEngine

/-- The wording of each failure. -/
def LaunchError.message : LaunchError → String
  | .refused engine why => "cannot launch '" ++ engine ++ "': " ++ why.reason
  | .noEngine => "list index out of range"

/-- The exit status of a run: an ended program keeps its code, and a signal counts from 128. -/
def exitStatus (code : Int) : Int :=
  if code < 0 then 128 - code else code

/-- The exit status of a command, given how its launch went. -/
def status (command : List String) : Launch → Except LaunchError Int
  | .exited code => .ok (exitStatus code)
  | .refused why =>
    match command with
    | [] => .error .noEngine
    | engine :: _ => .error (.refused engine why)

end PrintSpec.Engine
