import RelGraph.Xsd.Decimal

/-!
# Dates and times

A point in time is the number of seconds since the start of the year 1 in the calendar that is
counted back without end, and the time zone it was given in, if any.  Years before the year 1
are 0, -1 and so on.
-/

namespace RelGraph.Xsd

/-! ### The calendar -/

/-- The year has a leap day. -/
def isLeapYear (year : Int) : Bool :=
  year % 400 = 0 || (year % 4 = 0 && year % 100 ≠ 0)

/-- The number of days of a month. -/
def daysInMonth (year : Int) (month : Nat) : Nat :=
  match month with
  | 2 => if isLeapYear year then 29 else 28
  | 4 | 6 | 9 | 11 => 30
  | _ => 31

/-- The number of days from the start of the year to the start of a month. -/
def daysBeforeMonth (year : Int) (month : Nat) : Nat :=
  (List.range (month - 1)).foldl (fun days m => days + daysInMonth year (m + 1)) 0

/-- The number of days from the start of the year 1 to the start of a year. -/
def daysBeforeYear (year : Int) : Int :=
  let y := year - 1
  365 * y + (y.fdiv 4 - y.fdiv 100 + y.fdiv 400)

/-- The year of a day, counted from the start of the year 1. -/
def yearOfDay (day : Int) : Int :=
  let guess := (day * 400).fdiv 146097 + 1
  if day < daysBeforeYear guess then guess - 1
  else if daysBeforeYear (guess + 1) ≤ day then guess + 1
  else guess

/-- The month that holds a day, trying the months from `month` on, and the day of the month;
`day` is counted from the start of `month`. -/
def monthOfDay (year : Int) : Nat → Nat → Nat → Nat × Nat
  | 0, month, day => (month, day + 1)
  | fuel + 1, month, day =>
    let length := daysInMonth year month
    if day < length then (month, day + 1) else monthOfDay year fuel (month + 1) (day - length)

/-- The year, month and day of the month of a day, counted from the start of the year 1. -/
def dateOfDay (day : Int) : Int × Nat × Nat :=
  let year := yearOfDay day
  let (month, dayOfMonth) := monthOfDay year 11 1 (day - daysBeforeYear year).toNat
  (year, month, dayOfMonth)

/-! ### Points in time -/

/-- A point in time. -/
structure DateTime where
  /-- The seconds since the start of the year 1, in universal time. -/
  seconds : Decimal
  /-- The minutes by which the time zone is ahead of universal time. -/
  offset : Option Int

namespace DateTime

/-- The point in time of a date and a time of day. -/
def ofParts? (year : Int) (month day hour minute : Nat) (second : Decimal) (offset : Option Int) :
    Option DateTime := do
  let days := daysBeforeYear year + daysBeforeMonth year month + (day - 1 : Nat)
  let minutes := (minute : Int) - offset.getD 0
  let base ← Decimal.ofInt? (86400 * days + 3600 * hour + 60 * minutes)
  let seconds ← base.add? second
  return ⟨seconds, offset⟩

/-- Points in time with and without a time zone are never equal. -/
def same (a b : DateTime) : Bool :=
  a.offset.isSome == b.offset.isSome && a.seconds == b.seconds

/-- Compares the seconds. -/
def compareSeconds (a b : Decimal) : Ordering := compare a.units b.units

/-- The greatest number of seconds by which a time zone can be off universal time. -/
def maxOffset : Decimal := Decimal.ofInt (14 * 3600)

/-- Compares two points in time.  One without a time zone could be in any, and is compared
with one that has a time zone only if the result is the same for the most distant ones. -/
def compare? (a b : DateTime) : Option Ordering :=
  match a.offset, b.offset with
  | some _, none => do
    let late ← b.seconds.add? maxOffset
    let early ← b.seconds.sub? maxOffset
    let o := compareSeconds a.seconds late
    if o = compareSeconds a.seconds early then some o else none
  | none, some _ => do
    let late ← a.seconds.add? maxOffset
    let early ← a.seconds.sub? maxOffset
    let o := compareSeconds late b.seconds
    if o = compareSeconds early b.seconds then some o else none
  | _, _ => some (compareSeconds a.seconds b.seconds)

/-! ### Reading -/

/-- Two digits in front of a text, followed by no further digit. -/
def twoDigits? (cs : List Char) : Option (Nat × List Char) :=
  let digits := cs.takeWhile Char.isDigit
  if digits.length = 2 then some (digitsValue digits, cs.drop 2) else none

/-- The character in front of a text. -/
def expect? (c : Char) : List Char → Option (List Char)
  | [] => none
  | d :: cs => if d = c then some cs else none

/-- A year: a minus sign or none, and at least four digits, more only without a leading zero. -/
def year? (cs : List Char) : Option (Int × List Char) :=
  let (sign, cs) : Int × List Char :=
    match cs with
    | '-' :: rest => (-1, rest)
    | _ => (1, cs)
  let digits := cs.takeWhile Char.isDigit
  if digits.length < 4 || (4 < digits.length && digits.head? = some '0') then none
  else (fit64 (digitsValue digits)).map fun n => (sign * n, cs.dropWhile Char.isDigit)

/-- A year, a month and a day that the month has. -/
def date? (cs : List Char) : Option ((Int × Nat × Nat) × List Char) := do
  let (year, cs) ← year? cs
  let cs ← expect? '-' cs
  let (month, cs) ← twoDigits? cs
  let cs ← expect? '-' cs
  let (day, cs) ← twoDigits? cs
  if 1 ≤ month && month ≤ 12 && 1 ≤ day && day ≤ daysInMonth year month then
    some ((year, month, day), cs)
  else none

/-- Seconds: two digits, and a point and digits or not, below 60. -/
def seconds? (cs : List Char) : Option (Decimal × List Char) := do
  let whole := cs.takeWhile Char.isDigit
  let rest := cs.dropWhile Char.isDigit
  let (fraction, rest) ←
    match rest with
    | '.' :: after =>
      let digits := after.takeWhile Char.isDigit
      if digits.isEmpty then none else some (digits, after.dropWhile Char.isDigit)
    | _ => some ([], rest)
  if whole.length ≠ 2 || 60 ≤ digitsValue whole then none
  else
    let second ← Decimal.ofDigits? 1 whole fraction
    return (second, rest)

/-- A time of day; the day ends with the hour 24. -/
def time? (cs : List Char) : Option ((Nat × Nat × Decimal) × List Char) := do
  let (hour, cs) ← twoDigits? cs
  let cs ← expect? ':' cs
  let (minute, cs) ← twoDigits? cs
  let cs ← expect? ':' cs
  let (second, cs) ← seconds? cs
  if hour ≤ 24 && minute ≤ 59 && (hour < 24 || (minute = 0 && second.units = 0)) then
    some ((hour, minute, second), cs)
  else none

/-- A time zone at the end of a text, in minutes; a missing sign is a plus. -/
def offset? : List Char → Option (Option Int)
  | [] => some none
  | ['Z'] => some (some 0)
  | cs => do
    let (sign, cs) := splitSign cs
    let (hours, cs) ← twoDigits? cs
    let cs ← expect? ':' cs
    let (minutes, cs) ← twoDigits? cs
    if cs.isEmpty && minutes ≤ 59 && (hours ≤ 13 || (hours = 14 && minutes = 0)) then
      some (some (sign * (hours * 60 + minutes)))
    else none

/-- Reads a point in time: a date, a `T`, a time and a time zone or none. -/
def parse? (s : String) : Option DateTime := do
  let ((year, month, day), cs) ← date? s.toList
  let cs ← expect? 'T' cs
  let ((hour, minute, second), cs) ← time? cs
  let offset ← offset? cs
  ofParts? year month day hour minute second offset

/-- The text is a date, with a time zone or not. -/
def isDate (s : String) : Bool :=
  (do
    let ((year, month, day), cs) ← date? s.toList
    let offset ← offset? cs
    ofParts? year month day 0 0 ⟨0⟩ offset).isSome

/-! ### Writing -/

/-- Writes a time zone. -/
def renderOffset (offset : Int) : String :=
  if offset = 0 then "Z"
  else
    (if offset < 0 then "-" else "+") ++ Decimal.padded 2 (offset.natAbs / 60) ++ ":"
      ++ Decimal.padded 2 (offset.natAbs % 60)

/-- Writes a point in time, in its time zone.  The date, the hour and the minute are those of
the last whole second before it. -/
def render (t : DateTime) : String :=
  let whole := t.seconds.units.fdiv Decimal.one + t.offset.getD 0 * 60
  let (year, month, day) := dateOfDay (whole.fdiv 86400)
  let hour := ((whole % 86400) / 3600).toNat
  let minute := ((whole % 3600) / 60).toNat
  let second : Decimal := ⟨t.seconds.units % (60 * Decimal.one)⟩
  (if year < 0 then "-" else "") ++ Decimal.padded 4 year.natAbs ++ "-"
    ++ Decimal.padded 2 month ++ "-" ++ Decimal.padded 2 day ++ "T"
    ++ Decimal.padded 2 hour ++ ":" ++ Decimal.padded 2 minute ++ ":"
    ++ (if second.units < 10 * Decimal.one then "0" else "") ++ second.render
    ++ (match t.offset with
      | some offset => renderOffset offset
      | none => "")

end DateTime

end RelGraph.Xsd
