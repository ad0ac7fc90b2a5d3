import RelGraph.Mapping.SolutionMap
import RelGraph.Sparql.Expression

/-!
# Filters in SQL

A filter on the bindings of a solution map becomes a condition on the rows of its relation, if
this is possible.  Only expressions without errors on these bindings are converted, so that
negations and disjunctions mean the same on both sides.
-/

namespace RelGraph.Engine

open Rdf Sql Sparql Mapping

/-- The term of a constant expression. -/
def constantTerm? : Expression → Option Term
  | .iri i => some (.iri i)
  | .literal l => some (.literal l)
  | _ => none

/-- The term is a string without a language. -/
def isString : Term → Bool
  | .literal l => l.datatype = Datatype.string
  | _ => false

/-- The terms of the kind are IRIs, blank nodes, or strings without a language. -/
def isComparableKind (k : TermKind) : Bool :=
  k = .iri || k = .blank || k = .string

/-- Each term of the map can be compared with a string. -/
def isComparable : TermMap → Bool
  | .fixed t => !t.isLiteral || isString t
  | .typed kind _ => isComparableKind kind

/-- The kind and the columns of two variables of one kind, each of which is read from a
column. -/
def columnPair? (m : SolutionMap) (a b : Variable) : Option (TermKind × Column × Column) :=
  match m.termMap? a, m.termMap? b with
  | some (.typed k (.column c)), some (.typed l (.column d)) =>
    if k = l then some (k, c, d) else none
  | _, _ => none

/-- The condition under which two variables have the same term. -/
def sameVariables? (m : SolutionMap) (a b : Variable) : Option Expr := do
  let (kind, c, d) ← columnPair? m a b
  if kind.isInjective then some (Expr.columnsEqual c d) else none

/-- The condition under which two variables have equal terms. -/
def equalVariables? (m : SolutionMap) (a b : Variable) : Option Expr := do
  let (kind, c, d) ← columnPair? m a b
  if kind.isInjective && isComparableKind kind then some (Expr.columnsEqual c d) else none

/-- The condition under which a variable has a constant as its term. -/
def sameConstant? (m : SolutionMap) (v : Variable) (e : Expression) : Option Expr := do
  let map ← m.termMap? v
  let t ← constantTerm? e
  return map.conditionFor t

/-- The condition under which a variable has a term equal to a constant.  The comparison must
never be an error. -/
def equalConstant? (m : SolutionMap) (v : Variable) (e : Expression) : Option Expr := do
  let map ← m.termMap? v
  let t ← constantTerm? e
  if t.isIri || (isString t && isComparable map) then some (map.conditionFor t) else none

/-- The condition for a comparison of two expressions, of which one is a variable. -/
def comparison? (both : Variable → Variable → Option Expr)
    (constant : Variable → Expression → Option Expr) : Expression → Expression → Option Expr
  | .variable a, .variable b => both a b
  | .variable a, e => constant a e
  | e, .variable a => constant a e
  | _, _ => none

/-- The condition for a test on the kind of a variable. -/
def kindTest? (m : SolutionMap) : Sparql.Function → List Expression → Option Expr
  | f, [.variable v] => do
    let map ← m.termMap? v
    match f with
    | .isIri => some (Expr.ofBool map.isIri)
    | .isBlank => some (Expr.ofBool map.isBlank)
    | .isLiteral => some (Expr.ofBool map.isLiteral)
    | _ => none
  | _, _ => none

mutual

/-- The condition on the rows under which their bindings fulfil an expression. -/
def toSql? (m : SolutionMap) : Expression → Option Expr
  | .and es => (toSqls? m es).map Expr.andAll
  | .or es => (toSqls? m es).map Expr.orAll
  | .not e => (toSql? m e).map Expr.notOf
  | .literal l => (Expression.literalTruth? l).map Expr.ofBool
  | .bound v => some (Expr.ofBool (m.termMap? v).isSome)
  | .sameTerm a b => comparison? (sameVariables? m) (sameConstant? m) a b
  | .equal a b => comparison? (equalVariables? m) (equalConstant? m) a b
  | .call f es => kindTest? m f es
  | _ => none

/-- The conditions for some expressions. -/
def toSqls? (m : SolutionMap) : List Expression → Option (List Expr)
  | [] => some []
  | e :: es => do
    let c ← toSql? m e
    let cs ← toSqls? m es
    return c :: cs

end

end RelGraph.Engine
