/-!
# Integers of 64 bits

Integers are kept between -2^63 and 2^63 - 1; a result beyond is none.
-/

namespace RelGraph.Xsd

/-- A power of two. -/
def powTwo (n : Nat) : Nat := Nat.pow 2 n

/-- A power of ten. -/
def powTen (n : Nat) : Nat := Nat.pow 10 n

/-- The value of decimal digits. -/
def digitsValue (cs : List Char) : Nat :=
  cs.foldl (fun n c => n * 10 + (c.toNat - 48)) 0

/-- The sign in front of a number, and the rest of it. -/
def splitSign : List Char → Int × List Char
  | '+' :: cs => (1, cs)
  | '-' :: cs => (-1, cs)
  | cs => (1, cs)

/-- The number, if it fits into 64 bits. -/
def fit64 (n : Int) : Option Int :=
  if -(powTwo 63 : Int) ≤ n && n < powTwo 63 then some n else none

/-- Reads an integer: a sign, which may be missing, and digits. -/
def parseInteger? (s : String) : Option Int :=
  let (sign, digits) := splitSign s.toList
  if digits.isEmpty || !digits.all Char.isDigit then none
  else fit64 (sign * digitsValue digits)

end RelGraph.Xsd
