import PrintSpec.Numeral

/-!
# Numbers of double precision

A number of double precision is a whole number of at most 53 binary digits times a power of two,
or one of the values beyond all numbers.  `Double.ofRatio` rounds a quotient to the nearest such
number, and a quotient halfway between two of them to the even one; the other ways to get a number
go through it, so each of them rounds once.
-/

namespace PrintSpec

/-- A number of double precision. -/
inductive Double where
  /-- The value that is not a number. -/
  | nan
  /-- The value beyond all numbers of a sign. -/
  | infinite (negative : Bool)
  /-- The number `mantissa * 2 ^ exponent` with a sign, which zero has too. -/
  | finite (negative : Bool) (mantissa : Nat) (exponent : Int)
  deriving DecidableEq, Repr

namespace Double

/-- How many binary digits a mantissa may have. -/
def precision : Nat := 53

/-- The exponent of the least numbers. -/
def leastExponent : Int := -1074

/-- The exponent of the greatest numbers. -/
def greatestExponent : Int := 971

/-! ## Rounding -/

/-- A quotient rounded to the nearest whole number, and from halfway to the even one. -/
def roundDiv (num den : Nat) : Nat :=
  let low := num / den
  let rest := 2 * (num % den)
  if rest < den || (rest == den && low % 2 == 0) then low else low + 1

/-- The exponent of the number nearest to a positive quotient: the least one at which the quotient
takes no more binary digits than a mantissa may have. -/
def exponentOf (num den : Nat) : Int :=
  let low := max leastExponent ((num.log2 : Int) - den.log2 - precision)
  let scaled := num * Nat.pow 2 (-low).toNat / (den * Nat.pow 2 low.toNat)
  if scaled < Nat.pow 2 precision then low else low + 1

/-- A number with a mantissa that may have one binary digit too many after rounding. -/
def normal (negative : Bool) (mantissa : Nat) (exponent : Int) : Double :=
  let (m, e) :=
    if mantissa < Nat.pow 2 precision then (mantissa, exponent)
    else (mantissa / 2, exponent + 1)
  if greatestExponent < e then .infinite negative else .finite negative m e

/-- The number nearest to a quotient. -/
def ofRatio (negative : Bool) (num den : Nat) : Double :=
  if num = 0 then .finite negative 0 leastExponent
  else
    let e := exponentOf num den
    normal negative (roundDiv (num * Nat.pow 2 (-e).toNat) (den * Nat.pow 2 e.toNat)) e

/-- The number nearest to `mantissa * 2 ^ exponent`. -/
def ofBinary (negative : Bool) (mantissa : Nat) (exponent : Int) : Double :=
  ofRatio negative (mantissa * Nat.pow 2 exponent.toNat) (Nat.pow 2 (-exponent).toNat)

/-- The binary magnitude from which on numbers are beyond the greatest one, and below whose
negative they are nearest to zero. -/
def magnitudeLimit : Int := 1100

/-- The number nearest to `digits * 10 ^ exponent`.  Since ten lies above eight, the magnitude of
the result is known to be out of reach before a large power is computed. -/
def ofDecimal (negative : Bool) (digits : Nat) (exponent : Int) : Double :=
  let magnitude := (digits.log2 : Int) + 3 * exponent
  if digits = 0 then .finite negative 0 leastExponent
  else if 0 ≤ exponent && magnitudeLimit < magnitude then .infinite negative
  else if exponent < 0 && magnitude < -magnitudeLimit then .finite negative 0 leastExponent
  else ofRatio negative (digits * Nat.pow 10 exponent.toNat) (Nat.pow 10 (-exponent).toNat)

/-- The number that a numeral denotes, given the digits before and after its point. -/
def ofNumeral (negative : Bool) (whole fraction : List Char) (exponent : Int) : Double :=
  ofDecimal negative (Numeral.ofDigits (whole ++ fraction)) (exponent - fraction.length)

/-! ## Values -/

/-- Whether a number is zero. -/
def isZero : Double → Bool
  | .finite _ m _ => m == 0
  | _ => false

/-- The whole number that a number is equal to. -/
def toInt? : Double → Option Int
  | .finite negative m e =>
    if m % Nat.pow 2 (-e).toNat = 0 then
      let n : Nat := m / Nat.pow 2 (-e).toNat * Nat.pow 2 e.toNat
      some (if negative then -(n : Int) else n)
    else none
  | _ => none

/-- A number with the opposite sign. -/
def negate : Double → Double
  | .nan => .nan
  | .infinite negative => .infinite !negative
  | .finite negative m e => .finite (!negative) m e

/-- The product of two numbers. -/
def mul : Double → Double → Double
  | .finite s m e, .finite t n f => ofBinary (s != t) (m * n) (e + f)
  | .infinite s, .infinite t => .infinite (s != t)
  | .infinite s, .finite t n _ => if n = 0 then .nan else .infinite (s != t)
  | .finite s m _, .infinite t => if m = 0 then .nan else .infinite (s != t)
  | .nan, _ | _, .nan => .nan

/-- The sum of the absolute values of two numbers. -/
def addAbs : Double → Double → Double
  | .finite _ m e, .finite _ n f =>
    let least := min e f
    ofBinary false (m * Nat.pow 2 (e - least).toNat + n * Nat.pow 2 (f - least).toNat) least
  | .nan, _ | _, .nan => .nan
  | _, _ => .infinite false

end Double

end PrintSpec
