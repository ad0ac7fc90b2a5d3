import RelGraph.Rdf.Term
import RelGraph.Xsd.Binary
import RelGraph.Xsd.DateTime

/-!
# Values of expressions

The value of an expression is a term whose literal has been read according to its datatype.
A literal that is not valid for its datatype, or whose datatype has no values here, is kept as
it is.
-/

namespace RelGraph.Sparql

open Rdf Xsd

/-- A term with its literal read. -/
inductive Value where
  | iri (i : Iri)
  | blank (b : BlankNode)
  | string (s : String)
  | tagged (s language : String)
  | boolean (b : Bool)
  | integer (n : Int)
  | decimal (d : Decimal)
  | float (x : Float32)
  | double (x : Float)
  | dateTime (t : DateTime)
  | other (s : String) (datatype : Iri)

/-! ### Terms -/

/-- The names of the datatypes of integers. -/
def integerTypes : List String :=
  ["integer", "byte", "short", "int", "long", "unsignedByte", "unsignedShort", "unsignedInt",
   "unsignedLong", "positiveInteger", "negativeInteger", "nonPositiveInteger",
   "nonNegativeInteger"]

/-- The names of the datatypes of points in time. -/
def dateTimeTypes : List String := ["dateTime", "dateTimeStamp"]

/-- Reads a truth value. -/
def parseBoolean? (s : String) : Option Bool :=
  if s = "true" || s = "1" then some true
  else if s = "false" || s = "0" then some false
  else none

/-- The value of a literal with a datatype. -/
def typedValue? (s : String) (datatype : Iri) : Option Value :=
  if datatype = Datatype.boolean then (parseBoolean? s).map .boolean
  else if datatype = Datatype.string then some (.string s)
  else if datatype = Datatype.float then (parseFloat? s).map .float
  else if datatype = Datatype.double then (parseDouble? s).map .double
  else if datatype = Datatype.decimal then (Decimal.parse? s).map .decimal
  else if datatype ∈ integerTypes.map Datatype.xsd then (parseInteger? s).map .integer
  else if datatype ∈ dateTimeTypes.map Datatype.xsd then (DateTime.parse? s).map .dateTime
  else none

namespace Value

/-- The value of a literal. -/
def ofLiteral : Literal → Value
  | .simple s => .string s
  | .tagged s language => .tagged s language
  | .typed s datatype _ => (typedValue? s datatype).getD (.other s datatype)

/-- The value of a term. -/
def ofTerm : Term → Value
  | .iri i => .iri i
  | .blank b => .blank b
  | .literal l => ofLiteral l

/-- The term of a value: numbers and points in time are written in one way only. -/
def toTerm : Value → Term
  | .iri i => .iri i
  | .blank b => .blank b
  | .string s => .literal (.simple s)
  | .tagged s language => .literal (.tagged s language)
  | .boolean b => .literal (.ofBool b)
  | .integer n => .literal (.ofDatatype (toString n) Datatype.integer)
  | .decimal d => .literal (.ofDatatype d.render Datatype.decimal)
  | .float x => .literal (.ofDatatype (renderFloat x) Datatype.float)
  | .double x => .literal (.ofDatatype (renderDouble x) Datatype.double)
  | .dateTime t => .literal (.ofDatatype t.render Datatype.dateTime)
  | .other s datatype => .literal (.ofDatatype s datatype)

/-- The value as a condition; none if it is no condition. -/
def truth? : Value → Option Bool
  | .boolean b => some b
  | .string s => some (s ≠ "")
  | .integer n => some (n ≠ 0)
  | .decimal d => some (d.units ≠ 0)
  | .float x => some (x != 0 && !x.isNaN)
  | .double x => some (x != 0 && !x.isNaN)
  | _ => none

/-- The value is a number. -/
def isNumeric : Value → Bool
  | .integer _ | .decimal _ | .float _ | .double _ => true
  | _ => false

/-- The string of a value, with a language or without. -/
def text? : Value → Option (String × Option String)
  | .string s => some (s, none)
  | .tagged s language => some (s, some language)
  | _ => none

/-- The value of a string, with a language or without. -/
def ofText (s : String) : Option String → Value
  | some language => .tagged s language
  | none => .string s

/-- The values are the same.  Numbers of one datatype are compared as numbers. -/
def same : Value → Value → Bool
  | .iri a, .iri b => a = b
  | .blank a, .blank b => a = b
  | .string a, .string b => a = b
  | .tagged a l, .tagged b m => a = b && l = m
  | .boolean a, .boolean b => a = b
  | .integer a, .integer b => a = b
  | .decimal a, .decimal b => a = b
  | .float a, .float b => a == b
  | .double a, .double b => a == b
  | .dateTime a, .dateTime b => a.same b
  | .other a d, .other b e => a = b && d = e
  | _, _ => false

end Value

/-! ### Numbers -/

/-- Two numbers of one type. -/
inductive Operands where
  | integers (a b : Int)
  | decimals (a b : Decimal)
  | floats (a b : Float32)
  | doubles (a b : Float)

/-- A number as a float; a double is none. -/
def Value.toFloat? : Value → Option Float32
  | .integer n => some (floatOfInt n)
  | .decimal d => some (floatOfDecimal d)
  | .float x => some x
  | _ => none

/-- A number as a double. -/
def Value.toDouble? : Value → Option Float
  | .integer n => some (doubleOfInt n)
  | .decimal d => some (doubleOfDecimal d)
  | .float x => some x.toFloat
  | .double x => some x
  | _ => none

/-- A number as a decimal one; a binary one is none. -/
def Value.toDecimal? : Value → Option Decimal
  | .integer n => some (.ofInt n)
  | .decimal d => some d
  | _ => none

/-- The value is a double. -/
def Value.isDouble : Value → Bool
  | .double _ => true
  | _ => false

/-- The value is a float. -/
def Value.isFloat : Value → Bool
  | .float _ => true
  | _ => false

/-- Brings two numbers to one type: doubles are stronger than floats, and floats than decimal
numbers, and these than integers. -/
def Operands.ofValues? (a b : Value) : Option Operands :=
  match a, b with
  | .integer m, .integer n => some (.integers m n)
  | a, b =>
    if a.isDouble || b.isDouble then do return .doubles (← a.toDouble?) (← b.toDouble?)
    else if a.isFloat || b.isFloat then do return .floats (← a.toFloat?) (← b.toFloat?)
    else do return .decimals (← a.toDecimal?) (← b.toDecimal?)

/-- Compares two floats; there is no order on what is no number. -/
def compareFloats? (a b : Float32) : Option Ordering :=
  if a < b then some .lt else if b < a then some .gt else if a == b then some .eq else none

/-- Compares two doubles; there is no order on what is no number. -/
def compareDoubles? (a b : Float) : Option Ordering :=
  if a < b then some .lt else if b < a then some .gt else if a == b then some .eq else none

/-- Compares two numbers. -/
def Operands.compare? : Operands → Option Ordering
  | .integers a b => some (compare a b)
  | .decimals a b => some (compare a.units b.units)
  | .floats a b => compareFloats? a b
  | .doubles a b => compareDoubles? a b

namespace Value

/-! ### Comparison -/

/-- The literals are equal; none if this can not be decided, because one of them has not been
read. -/
def equal? (a b : Value) : Option Bool :=
  match a, b with
  | .iri _, _ | .blank _, _ | .tagged _ _, _ => some (a.same b)
  | .other _ _, .other _ _ => if a.same b then some true else none
  | .other _ _, .iri _ | .other _ _, .blank _ | .other _ _, .tagged _ _ => some false
  | .other _ _, _ | _, .other _ _ => none
  | a, b =>
    if a.isNumeric then
      some ((Operands.ofValues? a b).any fun o => o.compare? == some .eq)
    else some (a.same b)

/-- Compares two literals. -/
def compareLiterals? (a b : Value) : Option Ordering :=
  match a, b with
  | .string a, .string b => some (compare a b)
  | .tagged a l, .tagged b m => if l = m then some (compare a b) else none
  | .boolean a, .boolean b => some (compare a.toNat b.toNat)
  | .dateTime a, .dateTime b => a.compare? b
  | a, b => (Operands.ofValues? a b).bind Operands.compare?

/-- Compares two values; a value is always equal to itself. -/
def compare? (a b : Value) : Option Ordering :=
  if a.same b then some .eq else a.compareLiterals? b

/-! ### Sorting -/

/-- Compares languages; none comes first. -/
def compareLanguages : Option String → Option String → Ordering
  | none, none => .eq
  | none, some _ => .lt
  | some _, none => .gt
  | some a, some b => compare a b

/-- Compares the text, the datatype and the language of the literals of two values. -/
def compareTexts (a b : Value) : Ordering :=
  match a.toTerm, b.toTerm with
  | .literal a, .literal b =>
    ((compare a.value b.value).then (compare a.datatype.text b.datatype.text)).then
      (compareLanguages a.language? b.language?)
  | _, _ => .eq

/-- Compares the texts of two blank nodes. -/
def compareBlanks (a b : BlankNode) : Ordering := compare a.render b.render

/-- The order in which values are sorted: blank nodes, IRIs, then literals.  Literals that can
not be compared are sorted by their texts. -/
def order (a b : Value) : Ordering :=
  match a, b with
  | .blank a, .blank b => compareBlanks a b
  | .blank _, _ => .lt
  | .iri _, .blank _ => .gt
  | .iri a, .iri b => compare a.text b.text
  | .iri _, _ => .lt
  | _, .blank _ | _, .iri _ => .gt
  | a, b => (a.compareLiterals? b).getD (a.compareTexts b)

/-- The order in which values are sorted; a missing value comes first. -/
def orderOptions : Option Value → Option Value → Ordering
  | none, none => .eq
  | none, some _ => .lt
  | some _, none => .gt
  | some a, some b => a.order b

end Value

end RelGraph.Sparql
