/-!
# Hexadecimal digits

Fixed-width hexadecimal numbers, as escapes in quoted text use them.
-/

namespace PrintSpec.Text

/-- The lower-case hexadecimal digits of a number, padded with zeros to a least width. -/
def hexLower (least n : Nat) : List Char :=
  let digits := Nat.toDigits 16 n
  List.replicate (least - digits.length) '0' ++ digits

/-- The upper-case hexadecimal digits of a number, padded with zeros to a least width. -/
def hexUpper (least n : Nat) : List Char :=
  (hexLower least n).map Char.toUpper

/-- The value of a hexadecimal digit of either case. -/
def hexValue? (c : Char) : Option Nat :=
  if '0' ≤ c ∧ c ≤ '9' then some (c.toNat - '0'.toNat)
  else if 'a' ≤ c ∧ c ≤ 'f' then some (c.toNat - 'a'.toNat + 10)
  else if 'A' ≤ c ∧ c ≤ 'F' then some (c.toNat - 'A'.toNat + 10)
  else none

/-- The number that a list of hexadecimal digits denotes; nothing if some character is none. -/
def readHex? (cs : List Char) : Option Nat :=
  cs.foldl (fun acc c => acc.bind fun n => (hexValue? c).map (16 * n + ·)) (some 0)

end PrintSpec.Text
