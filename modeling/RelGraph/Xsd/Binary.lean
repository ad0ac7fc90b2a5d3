import RelGraph.Xsd.Decimal

/-!
# Binary numbers

The numbers of a binary format are `m * 2^e` with `m` below `2^precision` and `e` not below a
least exponent.  A ratio is rounded to the nearest of them, and of two equally near ones to the
one with an even `m`.  A number is written with the fewest decimal digits that are rounded back
to it, and of those with the ones nearest to it; no exponent is written.
-/

namespace RelGraph.Xsd

/-- A format of binary numbers. -/
structure Format where
  /-- The number of bits of `m`. -/
  precision : Nat
  /-- The least exponent. -/
  minExponent : Int
  /-- The greatest exponent. -/
  maxExponent : Int
  /-- The most decimal digits that a number needs. -/
  maxDigits : Nat

/-- The format of 64 bits. -/
def double64 : Format := ⟨53, -1074, 971, 17⟩

/-- The format of 32 bits. -/
def single32 : Format := ⟨24, -149, 104, 9⟩

/-- A magnitude in a binary format. -/
inductive Magnitude where
  | finite (m : Nat) (e : Int)
  | infinite

/-- The ratio `num / den` times `2^(-e)`, as a ratio. -/
def scaleRatio (num den : Nat) (e : Int) : Nat × Nat :=
  if e < 0 then (num * powTwo (-e).toNat, den) else (num, den * powTwo e.toNat)

/-- The nearest whole number to a ratio, the even one of two equally near ones. -/
def roundRatio (num den : Nat) : Nat :=
  let q := num / den
  let r := num % den
  if 2 * r < den then q
  else if den < 2 * r then q + 1
  else if q % 2 = 0 then q else q + 1

/-- The number nearest to a positive ratio. -/
def Format.round (f : Format) (num den : Nat) : Magnitude :=
  if num = 0 then .finite 0 f.minExponent
  else
    let guess := max ((Nat.log2 num : Int) - Nat.log2 den - f.precision) f.minExponent
    let (n₀, d₀) := scaleRatio num den guess
    let e := if n₀ / d₀ < powTwo f.precision then guess else guess + 1
    let (n, d) := scaleRatio num den e
    let m := roundRatio n d
    let (m, e) := if m = powTwo f.precision then (powTwo (f.precision - 1), e + 1) else (m, e)
    if f.maxExponent < e then .infinite else .finite m e

/-! ### Decimal digits -/

/-- The least `k` with `num < den * 10^k`, at most `fuel`. -/
def wholeDigits : Nat → Nat → Nat → Nat
  | 0, _, _ => 0
  | fuel + 1, num, den => if num < den then 0 else wholeDigits fuel num (den * 10) + 1

/-- The least `k` with `den ≤ num * 10^k`, at most `fuel`. -/
def leadingZeros : Nat → Nat → Nat → Nat
  | 0, _, _ => 0
  | fuel + 1, num, den => if den ≤ num then 0 else leadingZeros fuel (num * 10) den + 1

/-- The exponent of ten of the first decimal digit of a positive ratio. -/
def decimalExponent (num den : Nat) : Int :=
  if den ≤ num then (wholeDigits 400 num den : Int) - 1 else -(leadingZeros 400 num den : Int)

/-- A number `digits * 10^exponent`. -/
structure DecimalDigits where
  digits : Nat
  exponent : Int

/-- Compares a decimal number with the ratio `num / den`. -/
def DecimalDigits.compareRatio (d : DecimalDigits) (num den : Nat) : Ordering :=
  if d.exponent < 0 then compare (d.digits * den) (num * powTen (-d.exponent).toNat)
  else compare (d.digits * powTen d.exponent.toNat * den) num

/-- The finite number `m * 2^e` of a format as a ratio whose denominator is a multiple of 4. -/
def ratioOf (m : Nat) (e : Int) : Nat × Nat :=
  if e < 0 then (4 * m, 4 * powTwo (-e).toNat) else (4 * m * powTwo e.toNat, 4)

/-- The decimal number is rounded to `m * 2^e`: it lies between the midpoints to the two
neighbours, or on one of them if `m` is even. -/
def Format.readsBack (f : Format) (m : Nat) (e : Int) (d : DecimalDigits) : Bool :=
  let (_, den) := ratioOf m e
  let unit := if e < 0 then 1 else powTwo e.toNat
  let below := if m = powTwo (f.precision - 1) && f.minExponent < e then 1 else 2
  let low := d.compareRatio ((4 * m - below) * unit) den
  let high := d.compareRatio ((4 * m + 2) * unit) den
  (low == .gt || (low == .eq && m % 2 == 0)) && (high == .lt || (high == .eq && m % 2 == 0))

/-- Of the two decimal numbers with `n` digits around `m * 2^e`, the nearer one that is rounded
back to it. -/
def Format.withDigits? (f : Format) (m : Nat) (e : Int) (n : Nat) : Option DecimalDigits :=
  let (num, den) := ratioOf m e
  let exponent := decimalExponent num den - n + 1
  let (n', d') :=
    if exponent < 0 then (num * powTen (-exponent).toNat, den)
    else (num, den * powTen exponent.toNat)
  let low : DecimalDigits := ⟨n' / d', exponent⟩
  let high : DecimalDigits := ⟨n' / d' + 1, exponent⟩
  match f.readsBack m e low, f.readsBack m e high with
  | true, true => some (if 2 * (n' % d') < d' then low else high)
  | true, false => some low
  | false, true => some high
  | false, false => none

/-- The first decimal number that is rounded back, trying `n` digits, then more. -/
def Format.shortestFrom (f : Format) (m : Nat) (e : Int) : Nat → Nat → DecimalDigits
  | 0, _ => ⟨m, e⟩
  | fuel + 1, n => (f.withDigits? m e n).getD (f.shortestFrom m e fuel (n + 1))

/-- The fewest decimal digits that are rounded back to `m * 2^e`. -/
def Format.shortest (f : Format) (m : Nat) (e : Int) : DecimalDigits :=
  f.shortestFrom m e f.maxDigits 1

/-- Writes a decimal number without an exponent. -/
def DecimalDigits.render (d : DecimalDigits) : String :=
  if 0 ≤ d.exponent then toString (d.digits * powTen d.exponent.toNat)
  else
    let places := (-d.exponent).toNat
    let whole := d.digits / powTen places
    let fraction :=
      Decimal.dropTrailingZeros (Decimal.padded places (d.digits % powTen places)).toList
    toString whole ++ (if fraction.isEmpty then "" else "." ++ String.ofList fraction)

/-! ### Reading -/

/-- A number as it is written: special or with digits. -/
inductive Numeral where
  | infinity (negative : Bool)
  | nan
  /-- `digits * 10^exponent` with a sign. -/
  | digits (negative : Bool) (value : Nat) (exponent : Int)

/-- Reads an exponent: nothing, or a letter `e`, a sign and digits. -/
def parseExponent? : List Char → Option Int
  | [] => some 0
  | c :: cs =>
    if c = 'e' || c = 'E' then
      let (sign, digits) := splitSign cs
      if digits.isEmpty || !digits.all Char.isDigit then none
      else some (sign * digitsValue digits)
    else none

/-- Reads a number without its sign: digits with a point, and an exponent. -/
def parseDigits? (negative : Bool) (cs : List Char) : Option Numeral :=
  let whole := cs.takeWhile Char.isDigit
  let (fraction, rest) :=
    match cs.dropWhile Char.isDigit with
    | '.' :: after => (after.takeWhile Char.isDigit, after.dropWhile Char.isDigit)
    | after => ([], after)
  if whole.isEmpty && fraction.isEmpty then none
  else
    (parseExponent? rest).map fun e =>
      .digits negative (digitsValue (whole ++ fraction)) (e - fraction.length)

/-- Reads a number: a sign, then a name of infinity, a name of no number, or digits. -/
def parseNumeral? (s : String) : Option Numeral :=
  let (sign, cs) := splitSign s.toList
  let negative := sign < 0
  let name := String.ofList (cs.map Char.toLower)
  if name = "inf" || name = "infinity" then some (.infinity negative)
  else if name = "nan" then some .nan
  else parseDigits? negative cs

/-- The magnitude of `value * 10^exponent`.  Exponents far out of reach need no computation. -/
def Format.ofDecimal (f : Format) (value : Nat) (exponent : Int) : Magnitude :=
  if value = 0 then .finite 0 f.minExponent
  else
    let size := (toString value).length + exponent
    if size < -400 then .finite 0 f.minExponent
    else if 400 < size then .infinite
    else if exponent < 0 then f.round value (powTen (-exponent).toNat)
    else f.round (value * powTen exponent.toNat) 1

/-! ### Bits -/

/-- The bits of a magnitude, without the sign. -/
def Format.bits (f : Format) : Magnitude → Nat
  | .infinite => (f.maxExponent - f.minExponent + 2).toNat * powTwo (f.precision - 1)
  | .finite m e =>
    if m < powTwo (f.precision - 1) then m
    else (e - f.minExponent + 1).toNat * powTwo (f.precision - 1) + (m - powTwo (f.precision - 1))

/-- The magnitude of the bits without the sign; `none` is no number. -/
def Format.magnitude? (f : Format) (bits : Nat) : Option Magnitude :=
  let field := bits / powTwo (f.precision - 1)
  let low := bits % powTwo (f.precision - 1)
  if field = (f.maxExponent - f.minExponent + 2).toNat then
    if low = 0 then some .infinite else none
  else if field = 0 then some (.finite low f.minExponent)
  else some (.finite (powTwo (f.precision - 1) + low) (f.minExponent + field - 1))

/-- Writes the number with the given sign and bits. -/
def Format.render (f : Format) (negative : Bool) (bits : Nat) : String :=
  match f.magnitude? bits with
  | none => "NaN"
  | some .infinite => if negative then "-INF" else "INF"
  | some (.finite m e) =>
    (if negative then "-" else "") ++ (if m = 0 then "0" else (f.shortest m e).render)

/-- The double with the given sign and magnitude. -/
def doubleOf (negative : Bool) (m : Magnitude) : Float :=
  Float.ofBits (UInt64.ofNat (double64.bits m + if negative then powTwo 63 else 0))

/-- The float with the given sign and magnitude. -/
def floatOf (negative : Bool) (m : Magnitude) : Float32 :=
  Float32.ofBits (UInt32.ofNat (single32.bits m + if negative then powTwo 31 else 0))

/-- Reads a double. -/
def parseDouble? (s : String) : Option Float :=
  (parseNumeral? s).map fun
    | .infinity negative => doubleOf negative .infinite
    | .nan => Float.ofBits 0x7FF8000000000000
    | .digits negative value exponent => doubleOf negative (double64.ofDecimal value exponent)

/-- Reads a float. -/
def parseFloat? (s : String) : Option Float32 :=
  (parseNumeral? s).map fun
    | .infinity negative => floatOf negative .infinite
    | .nan => Float32.ofBits 0x7FC00000
    | .digits negative value exponent => floatOf negative (single32.ofDecimal value exponent)

/-- Writes a double. -/
def renderDouble (x : Float) : String :=
  let bits := x.toBits.toNat
  double64.render (powTwo 63 ≤ bits) (bits % powTwo 63)

/-- Writes a float. -/
def renderFloat (x : Float32) : String :=
  let bits := x.toBits.toNat
  single32.render (powTwo 31 ≤ bits) (bits % powTwo 31)

/-! ### Conversions -/

/-- The double nearest to an integer. -/
def doubleOfInt (n : Int) : Float :=
  doubleOf (n < 0) (double64.round n.natAbs 1)

/-- The float nearest to an integer. -/
def floatOfInt (n : Int) : Float32 :=
  floatOf (n < 0) (single32.round n.natAbs 1)

/-- Divides by ten as long as nothing is lost and `scale` is not used up. -/
def reduceScale : Nat → Int → Int × Nat
  | 0, n => (n, 0)
  | scale + 1, n =>
    if n ≠ 0 && n % 10 = 0 then reduceScale scale (n / 10) else (n, scale + 1)

/-- A decimal number as a double: the number of units, reduced, divided by the power of ten
that is left. -/
def doubleOfDecimal (d : Decimal) : Float :=
  let (n, scale) := reduceScale 18 d.units
  doubleOfInt n / doubleOfInt (powTen scale)

/-- A decimal number as a float, by way of the double. -/
def floatOfDecimal (d : Decimal) : Float32 :=
  (doubleOfDecimal d).toFloat32

end RelGraph.Xsd
