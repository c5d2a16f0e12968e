import PrintSpec.Numeral

/-!
# Ends of a field range

A range end is written as a number, or as a minus and a number.  The minus says that the number
counts fields from the last one.
-/

namespace PrintSpec

/-- One end of a field range. -/
structure Bound where
  /-- The number as written, without the leading minus. -/
  value : Int
  /-- Whether the number counts from the last field. -/
  fromEnd : Bool := false
  deriving DecidableEq, Repr

namespace Bound

/-- Reads a range end.  Only the very first character can be the minus that counts from the
end; what follows is any numeral. -/
def read (text : String) : Except Numeral.Error Bound :=
  match text.toList with
  | '-' :: rest => (Numeral.read (String.ofList rest)).map fun n => ⟨n, true⟩
  | _ => (Numeral.read text).map fun n => ⟨n, false⟩

end Bound

end PrintSpec
