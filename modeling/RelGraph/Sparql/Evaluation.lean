import RelGraph.Rdf.Binding
import RelGraph.Rdf.Iri
import RelGraph.Sparql.Expression
import RelGraph.Sparql.Value
import RelGraph.Text.Case
import RelGraph.Text.Regex
import RelGraph.Text.Split

/-!
# Values of expressions on bindings

The value of an expression on a binding; none is an error.  Conjunctions and disjunctions
follow the logic of three values, in which an error is overruled by an operand that decides.
-/

namespace RelGraph.Sparql

open Rdf Xsd

/-! ### Truth values -/

/-- The conjunction of some truth values: a false one decides, then an error. -/
def allTrue (bs : List (Option Bool)) : Option Bool :=
  if some false ∈ bs then some false
  else if none ∈ bs then none
  else some true

/-- The disjunction of some truth values: a true one decides, then an error. -/
def anyTrue (bs : List (Option Bool)) : Option Bool :=
  if some true ∈ bs then some true
  else if none ∈ bs then none
  else some false

/-- The truth value of a value that may be an error. -/
def truthOf (v : Option Value) : Option Bool := v.bind Value.truth?

/-! ### Operations -/

/-- The test on an ordering. -/
def Comparison.holds : Comparison → Ordering → Bool
  | .greater, o => o = .gt
  | .greaterOrEqual, o => o ≠ .lt
  | .less, o => o = .lt
  | .lessOrEqual, o => o ≠ .gt

/-- An operation on integers; a quotient is a decimal number. -/
def Operation.onIntegers? : Operation → Int → Int → Option Value
  | .add, a, b => (fit64 (a + b)).map .integer
  | .subtract, a, b => (fit64 (a - b)).map .integer
  | .multiply, a, b => (fit64 (a * b)).map .integer
  | .divide, a, b => (Decimal.div? (.ofInt a) (.ofInt b)).map .decimal

/-- An operation on decimal numbers. -/
def Operation.onDecimals? : Operation → Decimal → Decimal → Option Decimal
  | .add, a, b => a.add? b
  | .subtract, a, b => a.sub? b
  | .multiply, a, b => a.mul? b
  | .divide, a, b => a.div? b

/-- An operation on floats. -/
def Operation.onFloats : Operation → Float32 → Float32 → Float32
  | .add, a, b => a + b
  | .subtract, a, b => a - b
  | .multiply, a, b => a * b
  | .divide, a, b => a / b

/-- An operation on doubles. -/
def Operation.onDoubles : Operation → Float → Float → Float
  | .add, a, b => a + b
  | .subtract, a, b => a - b
  | .multiply, a, b => a * b
  | .divide, a, b => a / b

/-- An operation on two values, which have to be numbers. -/
def Operation.apply? (op : Operation) (a b : Value) : Option Value := do
  match ← Operands.ofValues? a b with
  | .integers a b => op.onIntegers? a b
  | .decimals a b => (op.onDecimals? a b).map .decimal
  | .floats a b => some (.float (op.onFloats a b))
  | .doubles a b => some (.double (op.onDoubles a b))

/-- A number with the other sign. -/
def Value.negative? : Value → Option Value
  | .integer n => (fit64 (-n)).map .integer
  | .decimal d => d.neg?.map .decimal
  | .float x => some (.float (-x))
  | .double x => some (.double (-x))
  | _ => none

/-! ### Functions -/

/-- The text of a term; a blank node has none. -/
def termText? : Term → Option String
  | .iri i => some i.text
  | .blank _ => none
  | .literal l => some l.value

/-- The language of a literal, which may be empty. -/
def languageOf? : Value → Option String
  | .tagged _ language => some language
  | .iri _ | .blank _ => none
  | _ => some ""

/-- The datatype of a literal; what was read as an integer is an integer. -/
def datatypeOf? : Value → Option Iri
  | .iri _ | .blank _ => none
  | .string _ => some Datatype.string
  | .tagged _ _ => some Datatype.langString
  | .boolean _ => some Datatype.boolean
  | .integer _ => some Datatype.integer
  | .decimal _ => some Datatype.decimal
  | .float _ => some Datatype.float
  | .double _ => some Datatype.double
  | .dateTime _ => some Datatype.dateTime
  | .other _ datatype => some datatype

/-- The range is the start of the tag, part by part. -/
def isRangeOf : List (List Char) → List (List Char) → Bool
  | [], _ => true
  | _ :: _, [] => false
  | r :: rs, t :: ts => r = t && isRangeOf rs ts

/-- A language belongs to a range; the range `*` holds all languages. -/
def languageMatches (tag range : String) : Bool :=
  let tag := Text.asciiLower tag
  let range := Text.asciiLower range
  if range = "*" then tag ≠ ""
  else isRangeOf (Text.split '-' range.toList) (Text.split '-' tag.toList)

/-- A test on two strings; the second one has no language or the one of the first. -/
def stringTest? (test : List Char → List Char → Bool) (a b : Value) : Option Value := do
  let (s, l) ← a.text?
  let (t, m) ← b.text?
  if m = none || l = m then some (.boolean (test s.toList t.toList)) else none

/-- A test with a regular expression. -/
def regexTest? (text pattern flags : Value) : Option Value :=
  match pattern, flags with
  | .string pattern, .string flags => do
    let r ← Text.Regex.parse? pattern flags
    let (s, _) ← text.text?
    return .boolean (r.matchesIn s)
  | _, _ => none

/-- The value of a function; none if the number or the kind of its arguments is wrong. -/
def Function.apply? : Function → List Value → Option Value
  | .str, [v] => (termText? v.toTerm).map .string
  | .lang, [v] => (languageOf? v).map .string
  | .langMatches, [.string tag, .string range] => some (.boolean (languageMatches tag range))
  | .datatype, [v] => (datatypeOf? v).map .iri
  | .iri, [.iri i] => some (.iri i)
  | .iri, [.string s] => (Iri.parse? s).map .iri
  | .strLen, [v] => v.text?.map fun p => .integer p.1.length
  | .uCase, [v] => v.text?.map fun p => .ofText (Text.upper p.1) p.2
  | .lCase, [v] => v.text?.map fun p => .ofText (Text.lower p.1) p.2
  | .contains, [a, b] => stringTest? (fun s t => Text.occursIn t s) a b
  | .strStarts, [a, b] => stringTest? (fun s t => t.isPrefixOf s) a b
  | .strEnds, [a, b] => stringTest? (fun s t => t.isSuffixOf s) a b
  | .isIri, [v] => some (.boolean v.toTerm.isIri)
  | .isBlank, [v] => some (.boolean v.toTerm.isBlank)
  | .isLiteral, [v] => some (.boolean v.toTerm.isLiteral)
  | .isNumeric, [v] => some (.boolean v.isNumeric)
  | .regex, [text, pattern] => regexTest? text pattern (.string "")
  | .regex, [text, pattern, flags] => regexTest? text pattern flags
  | _, _ => none

/-! ### Expressions -/

namespace Expression

mutual

/-- The value of an expression on a binding. -/
def eval (b : Binding) : Expression → Option Value
  | .iri i => some (.iri i)
  | .literal l => some (.ofLiteral l)
  | .variable v => (b.get? v).map .ofTerm
  | .or es => (anyTrue ((evalEach b es).map truthOf)).map .boolean
  | .and es => (allTrue ((evalEach b es).map truthOf)).map .boolean
  | .equal x y => do
    let v ← eval b x
    let w ← eval b y
    (v.equal? w).map .boolean
  | .sameTerm x y => do
    let v ← eval b x
    let w ← eval b y
    return .boolean (v.same w)
  | .compare test x y => do
    let v ← eval b x
    let w ← eval b y
    (v.compare? w).map fun o => .boolean (test.holds o)
  | .arithmetic op x y => do
    let v ← eval b x
    let w ← eval b y
    op.apply? v w
  | .plus e => do
    let v ← eval b e
    if v.isNumeric then some v else none
  | .minus e => do
    let v ← eval b e
    v.negative?
  | .not e => (truthOf (eval b e)).map fun t => .boolean !t
  | .bound v => some (.boolean (b.binds v))
  | .choose x y z =>
    match truthOf (eval b x) with
    | some true => eval b y
    | some false => eval b z
    | none => none
  | .coalesce es => (evalEach b es).findSome? id
  | .call f es => do
    let vs ← (evalEach b es).mapM id
    f.apply? vs

/-- The values of some expressions on a binding. -/
def evalEach (b : Binding) : List Expression → List (Option Value)
  | [] => []
  | e :: es => eval b e :: evalEach b es

end

/-- The truth value of an expression on a binding; none is an error. -/
def truthOn (e : Expression) (b : Binding) : Option Bool := truthOf (e.eval b)

/-- The condition holds on a binding; it does not if there is an error. -/
def holds (e : Expression) (b : Binding) : Bool := (e.truthOn b).getD false

end Expression

end RelGraph.Sparql
