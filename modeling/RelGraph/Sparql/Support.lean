import RelGraph.Sparql.Algebra
import RelGraph.Sparql.Pattern

/-!
# What can be evaluated

A pattern of the algebra of queries becomes one that can be evaluated, unless some part of it
is not supported.  A blank node of a triple pattern becomes a variable, whose name no variable
of a query has.
-/

namespace RelGraph.Sparql

open Rdf

/-- Why a query can not be evaluated. -/
inductive Unsupported where
  | path
  | aggregation
  | graph
  | service
  | hasSolution
  | function (name : String)
  | dataset
  | describe
  deriving DecidableEq

/-- What is not supported. -/
def Unsupported.feature : Unsupported → String
  | .path => "Property paths"
  | .aggregation => "Aggregation"
  | .graph => "GRAPH"
  | .service => "SERVICE"
  | .hasSolution => "EXISTS"
  | .function name => "The function " ++ name
  | .dataset => "FROM and FROM NAMED"
  | .describe => "DESCRIBE"

/-- The message that says so. -/
def Unsupported.message (u : Unsupported) : String :=
  u.feature ++ " is not supported"

/-- The variable that stands for a blank node. -/
def blankVariable (b : BlankNode) : Variable := ⟨b.render⟩

/-- A position without blank nodes. -/
def positionOf : Position → Position
  | .term (.blank b) => .variable (blankVariable b)
  | p => p

/-- A triple pattern without blank nodes. -/
def triplePatternOf (p : TriplePattern) : TriplePattern :=
  ⟨positionOf p.subject, positionOf p.predicate, positionOf p.object⟩

namespace Algebra

/-- The function with a name. -/
def FunctionName.toFunction : FunctionName → Except Unsupported Function
  | .known f => .ok f
  | .builtin name => .error (.function name)
  | .custom i => .error (.function i.render)

mutual

/-- The expression that can be evaluated. -/
def Expr.toExpression : Expr → Except Unsupported Expression
  | .iri i => .ok (.iri i)
  | .literal l => .ok (.literal l)
  | .variable v => .ok (.variable v)
  | .or a b => do return .or [← a.toExpression, ← b.toExpression]
  | .and a b => do return .and [← a.toExpression, ← b.toExpression]
  | .equal a b => do return .equal (← a.toExpression) (← b.toExpression)
  | .sameTerm a b => do return .sameTerm (← a.toExpression) (← b.toExpression)
  | .compare test a b => do return .compare test (← a.toExpression) (← b.toExpression)
  | .member e es => do
    let left ← e.toExpression
    let members ← toExpressions es
    return if members.isEmpty then .choose left (.ofBool false) (.ofBool false)
      else .or (members.map (.equal left))
  | .arithmetic op a b => do return .arithmetic op (← a.toExpression) (← b.toExpression)
  | .plus e => do return .plus (← e.toExpression)
  | .minus e => do return .minus (← e.toExpression)
  | .not e => do return .not (← e.toExpression)
  | .hasSolution _ => .error .hasSolution
  | .bound v => .ok (.bound v)
  | .choose a b c => do
    return .choose (← a.toExpression) (← b.toExpression) (← c.toExpression)
  | .coalesce es => do return .coalesce (← toExpressions es)
  | .call f es => do
    let function ← f.toFunction
    return .call function (← toExpressions es)

/-- The expressions that can be evaluated. -/
def toExpressions : List Expr → Except Unsupported (List Expression)
  | [] => .ok []
  | e :: es => do return (← e.toExpression) :: (← toExpressions es)

end

/-- The sort key that can be evaluated. -/
def SortKey.toSortKey : SortKey → Except Unsupported Sparql.SortKey
  | .ascending e => do return ⟨← e.toExpression, false⟩
  | .descending e => do return ⟨← e.toExpression, true⟩

/-- The condition of an optional part, which always holds if there is none. -/
def conditionOf : Option Expr → Except Unsupported Expression
  | some e => e.toExpression
  | none => .ok (.ofBool true)

/-- The pattern that can be evaluated. -/
def Pattern.toPattern : Pattern → Except Unsupported Sparql.Pattern
  | .bgp ps => .ok (.bgp (ps.map triplePatternOf))
  | .join l r => do return .join (← l.toPattern) (← r.toPattern)
  | .leftJoin l r e => do
    let left ← l.toPattern
    let right ← r.toPattern
    return .leftJoin left right (← conditionOf e)
  | .filter e p => do
    let condition ← e.toExpression
    return .filter condition (← p.toPattern)
  | .union l r => do return .unionAll [← l.toPattern, ← r.toPattern]
  | .minus l r => do return .minus (← l.toPattern) (← r.toPattern)
  | .extend p v e => do
    let inner ← p.toPattern
    return .extend inner v (← e.toExpression)
  | .values vs rows => .ok (.values vs rows)
  | .orderBy p keys => do
    let inner ← p.toPattern
    return .orderBy inner (← keys.mapM SortKey.toSortKey)
  | .project p vs => do return .project (← p.toPattern) vs
  | .distinct p => do return .distinct (← p.toPattern)
  | .reduced p => do return .reduced (← p.toPattern)
  | .slice p start length => do return .slice (← p.toPattern) start length
  | .path => .error .path
  | .group _ => .error .aggregation
  | .graph _ => .error .graph
  | .service _ => .error .service

/-- The pattern of a query that can be evaluated. -/
def Query.toPattern (q : Query) : Except Unsupported Sparql.Pattern :=
  match q.form with
  | .describe => .error .describe
  | _ => if q.namesGraphs then .error .dataset else q.pattern.toPattern

end Algebra

end RelGraph.Sparql
