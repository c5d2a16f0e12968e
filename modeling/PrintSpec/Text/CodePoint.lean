/-!
# Code points

A text that is written with escapes is a list of code points.  Some of them are the halves of a
pair that stands for one character, and a half that is left alone stands for none.
-/

namespace PrintSpec.Text

/-- Why a code is not a code point. -/
inductive CodeError where
  /-- It lies outside of the code space. -/
  | outside
  /-- It is so large that it is not even looked up. -/
  | tooLarge
  deriving DecidableEq, Repr

/-- The wording of each cause. -/
def CodeError.message : CodeError → String
  | .outside => "chr() arg not in range(0x110000)"
  | .tooLarge => "Python int too large to convert to C int"

/-- The size of the code space. -/
def codeSpace : Nat := 0x110000

/-- The greatest code that is looked up. -/
def greatestCode : Nat := 0x7FFFFFFF

/-- The code point that a code is. -/
def codePoint (code : Nat) : Except CodeError Nat :=
  if greatestCode < code then .error .tooLarge
  else if codeSpace ≤ code then .error .outside
  else .ok code

/-- The code points of a whole text. -/
def codes (s : String) : List Nat :=
  s.toList.map Char.toNat

/-! ## Halves -/

/-- Whether a code point is the first half of a pair. -/
def isHighHalf (n : Nat) : Bool :=
  0xD800 ≤ n && n < 0xDC00

/-- Whether a code point is the second half of a pair. -/
def isLowHalf (n : Nat) : Bool :=
  0xDC00 ≤ n && n < 0xE000

/-- The two halves of a code point beyond the basic plane. -/
def halves (n : Nat) : Nat × Nat :=
  (0xD800 + (n - 0x10000) / 0x400, 0xDC00 + (n - 0x10000) % 0x400)

/-- The code point that two halves make. -/
def joined (high low : Nat) : Nat :=
  0x10000 + (high - 0xD800) * 0x400 + (low - 0xDC00)

/-- Some code points with every pair of halves made one. -/
def joinHalves : List Nat → List Nat
  | [] => []
  | [n] => [n]
  | n :: m :: rest =>
    if isHighHalf n && isLowHalf m then joined n m :: joinHalves rest
    else n :: joinHalves (m :: rest)

/-- The characters of some code points; nothing if a half is among them. -/
def charsOf? (codes : List Nat) : Option (List Char) :=
  if codes.all Nat.isValidChar then some (codes.map Char.ofNat) else none

end PrintSpec.Text
