import PrintSpec.Double.Basic

/-!
# The shortest numeral of a number

A number is written with the fewest digits that are read back as it.  For one digit more at a time
the two neighbours of the number on the grid of such decimals are tried, the nearer one first, and
from halfway the even one.  Large and small numbers are written with an exponent.
-/

namespace PrintSpec.Double

/-! ## The digits -/

/-- Digits before which a point stands, times a power of ten. -/
structure Digits where
  /-- The digits; the last one is not zero. -/
  digits : List Char
  /-- The power of ten. -/
  point : Int
  deriving DecidableEq, Repr

/-- The digits of `n * 10 ^ exponent`. -/
def Digits.ofDecimal (n : Nat) (exponent : Int) : Digits :=
  let all := Nat.toDigits 10 n
  ⟨(all.reverse.dropWhile (· == '0')).reverse, exponent + all.length⟩

/-- A neighbour of `mantissa * 2 ^ exponent` among the multiples of `10 ^ grid` that is read back
as this number. -/
def neighbour? (mantissa : Nat) (exponent grid : Int) : Option Nat :=
  let num := mantissa * Nat.pow 2 exponent.toNat * Nat.pow 10 (-grid).toNat
  let den := Nat.pow 2 (-exponent).toNat * Nat.pow 10 grid.toNat
  let near := roundDiv num den
  let far := if near = num / den then near + 1 else near - 1
  [near, far].find? fun n => ofDecimal false n grid = .finite false mantissa exponent

/-- A power of ten above `mantissa * 2 ^ exponent`, and not far above it. -/
def powerAbove (mantissa : Nat) (exponent : Int) : Int :=
  ((mantissa.log2 : Int) + exponent + 1) * 30103 / 100000 + 2

/-- How many grids are tried; seventeen digits are enough for every number. -/
def gridCount : Nat := 22

/-- The shortest digits of `mantissa * 2 ^ exponent`. -/
def shortest (mantissa : Nat) (exponent : Int) : Digits :=
  let top := powerAbove mantissa exponent
  let grids := (List.range gridCount).map fun (i : Nat) => top - (i : Int)
  let found := grids.findSome? fun grid =>
    (neighbour? mantissa exponent grid).map fun n => Digits.ofDecimal n grid
  found.getD <|
    Digits.ofDecimal (mantissa * Nat.pow 2 exponent.toNat * Nat.pow 5 (-exponent).toNat)
      (min exponent 0)

/-! ## The numeral -/

/-- The greatest power of ten that is written without an exponent. -/
def plainAbove : Int := 16

/-- The least power of ten that is written without an exponent. -/
def plainBelow : Int := -3

/-- An exponent with its sign and at least two digits. -/
def exponentText (e : Int) : List Char :=
  let digits := Nat.toDigits 10 e.natAbs
  (if e < 0 then '-' else '+') :: (if digits.length < 2 then '0' :: digits else digits)

/-- A numeral for some digits. -/
def Digits.text (d : Digits) : List Char :=
  if plainBelow ≤ d.point && d.point ≤ plainAbove then
    if d.point ≤ 0 then '0' :: '.' :: List.replicate (-d.point).toNat '0' ++ d.digits
    else
      let whole := d.digits.take d.point.toNat
      let fraction := d.digits.drop d.point.toNat
      whole ++ List.replicate (d.point.toNat - d.digits.length) '0' ++
        '.' :: (if fraction.isEmpty then ['0'] else fraction)
  else
    let mantissa := match d.digits with
      | first :: second :: rest => first :: '.' :: second :: rest
      | digits => digits
    mantissa ++ 'e' :: exponentText (d.point - 1)

/-- A numeral for a number, with words for the values that have none. -/
def text (notNumber infinity : String) : Double → List Char
  | .nan => notNumber.toList
  | .infinite negative => (if negative then ['-'] else []) ++ infinity.toList
  | .finite negative m e =>
    (if negative then ['-'] else []) ++
      (if m = 0 then "0.0".toList else (shortest m e).text)

end PrintSpec.Double
