import RelGraph.Xsd.Integer

/-!
# Decimal numbers

A decimal number has 18 places: it is a whole number of units of 10^-18, and the number of units
fits into 128 bits.  Sums and products are exact or there is none; quotients are cut toward
zero.
-/

namespace RelGraph.Xsd

/-- A decimal number, by its number of units of 10^-18. -/
structure Decimal where
  units : Int
  deriving DecidableEq

namespace Decimal

/-- The number of units in one. -/
def one : Int := powTen 18

/-- The number fits into 128 bits. -/
def fits (n : Int) : Bool :=
  -(powTwo 127 : Int) ≤ n && n < powTwo 127

/-- The decimal number of so many units. -/
def ofUnits? (n : Int) : Option Decimal :=
  if fits n then some ⟨n⟩ else none

/-- An integer as a decimal number. -/
def ofInt? (n : Int) : Option Decimal := ofUnits? (n * one)

/-- An integer of 64 bits as a decimal number, which always fits. -/
def ofInt (n : Int) : Decimal := ⟨n * one⟩

/-! ### Reading and writing -/

/-- Leaves out the zeros at the end. -/
def dropTrailingZeros (cs : List Char) : List Char :=
  (cs.reverse.dropWhile (· = '0')).reverse

/-- The number with the given sign, whole part and fraction, which has at most 18 places
besides zeros at its end. -/
def ofDigits? (sign : Int) (whole fraction : List Char) : Option Decimal :=
  let places := dropTrailingZeros fraction
  if !whole.all Char.isDigit || !places.all Char.isDigit || 18 < places.length then none
  else ofUnits? (sign * digitsValue (whole ++ places) * powTen (18 - places.length))

/-- Reads a decimal number: a sign, digits, a point and digits, of which all but one digit may
be missing. -/
def parse? (s : String) : Option Decimal :=
  let (sign, cs) := splitSign s.toList
  let whole := cs.takeWhile Char.isDigit
  match cs.dropWhile Char.isDigit with
  | [] => if whole.isEmpty then none else ofDigits? sign whole []
  | '.' :: fraction =>
    if whole.isEmpty && fraction.isEmpty then none else ofDigits? sign whole fraction
  | _ => none

/-- A number with at least so many digits. -/
def padded (width : Nat) (n : Nat) : String :=
  let digits := (toString n).toList
  String.ofList (List.replicate (width - digits.length) '0' ++ digits)

/-- Writes a decimal number with as few digits as it needs. -/
def render (d : Decimal) : String :=
  let size := d.units.natAbs
  let whole := size / powTen 18
  let fraction := dropTrailingZeros (padded 18 (size % powTen 18)).toList
  (if d.units < 0 then "-" else "") ++ toString whole
    ++ (if fraction.isEmpty then "" else "." ++ String.ofList fraction)

/-! ### Arithmetic -/

/-- The sum. -/
def add? (a b : Decimal) : Option Decimal := ofUnits? (a.units + b.units)

/-- The difference. -/
def sub? (a b : Decimal) : Option Decimal := ofUnits? (a.units - b.units)

/-- The number with the other sign. -/
def neg? (a : Decimal) : Option Decimal := ofUnits? (-a.units)

/-- The product, if it has no more than 18 places. -/
def mul? (a b : Decimal) : Option Decimal :=
  let product := a.units * b.units
  if product % one = 0 then ofUnits? (product / one) else none

/-- Multiplies by ten as long as the result fits, at most `fuel` times; also gives how often. -/
def scaleUp : Nat → Int → Int × Nat
  | 0, n => (n, 0)
  | fuel + 1, n =>
    if n ≠ 0 && fits (n * 10) then
      let (m, k) := scaleUp fuel (n * 10)
      (m, k + 1)
    else (n, 0)

/-- Divides by ten as long as nothing is lost, at most `fuel` times; also gives how often. -/
def scaleDown : Nat → Int → Int × Nat
  | 0, n => (n, 0)
  | fuel + 1, n =>
    if n ≠ 0 && n % 10 = 0 then
      let (m, k) := scaleDown fuel (n / 10)
      (m, k + 1)
    else (n, 0)

/-- The quotient.  The dividend is scaled up and the divisor scaled down as far as possible
before they are divided, and the quotient is brought back to 18 places; there is none when it
would have to be scaled up again. -/
def div? (a b : Decimal) : Option Decimal :=
  if b.units = 0 then none
  else
    let (left, l) := scaleUp 39 a.units
    let (right, r) := scaleDown 39 b.units
    if l + r < 18 || !fits (powTen (l + r - 18)) then none
    else do
      let quotient ← ofUnits? (left.tdiv right)
      ofUnits? (quotient.units.tdiv (powTen (l + r - 18)))

end Decimal

end RelGraph.Xsd
