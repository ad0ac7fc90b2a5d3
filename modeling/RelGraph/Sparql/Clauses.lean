import RelGraph.Sparql.Expression

/-!
# Clauses of conditions

A condition is split into conditions that have to hold together, so that each of them can be
moved on its own.  Negations are pushed inward and disjunctions are distributed over
conjunctions, unless there would be too many clauses.  The result is used only if it has more
parts than the conjunction that is there already.
-/

namespace RelGraph.Sparql

namespace Expression

/-- The number of clauses beyond which disjunctions are not distributed. -/
def maxClauses : Nat := 64

mutual

/-- The negation of an expression in which negations are pushed inward.  A negated conjunction
is kept. -/
def pushedNegation : Expression → Expression
  | .not e => e
  | .or es => .and (pushedNegations es)
  | e => .not e

/-- The negations of some expressions. -/
def pushedNegations : List Expression → List Expression
  | [] => []
  | e :: es => pushedNegation e :: pushedNegations es

end

mutual

/-- Pushes negations inward. -/
def pushNegations : Expression → Expression
  | .not e => pushedNegation (pushNegations e)
  | .and es => .and (pushAllNegations es)
  | .or es => .or (pushAllNegations es)
  | e => e

/-- Pushes negations inward in some expressions. -/
def pushAllNegations : List Expression → List Expression
  | [] => []
  | e :: es => pushNegations e :: pushAllNegations es

end

mutual

/-- The operands of nested conjunctions. -/
def flattenAnd : Expression → List Expression
  | .and es => flattenAnds es
  | e => [e]

/-- The operands of the nested conjunctions among some expressions. -/
def flattenAnds : List Expression → List Expression
  | [] => []
  | e :: es => flattenAnd e ++ flattenAnds es

end

mutual

/-- The operands of nested disjunctions. -/
def flattenOr : Expression → List Expression
  | .or es => flattenOrs es
  | e => [e]

/-- The operands of the nested disjunctions among some expressions. -/
def flattenOrs : List Expression → List Expression
  | [] => []
  | e :: es => flattenOr e ++ flattenOrs es

end

/-- The disjunction of some operands, which is a single one itself. -/
def clause : List Expression → Expression
  | [e] => e
  | es => .or es

/-- The clauses of a disjunction, from those of its first operands on: one conjunct is chosen
from each operand.  None if there are too many. -/
def clauses? : List Expression → List (List Expression) → Option (List (List Expression))
  | [], acc => some acc
  | e :: es, acc =>
    let options := flattenAnd e
    if maxClauses < acc.length * options.length then none
    else
      clauses? es (acc.flatMap fun c => options.map fun o => c ++ flattenOr o)

mutual

/-- Distributes disjunctions over conjunctions. -/
def distribute : Expression → Expression
  | .and es => .and (distributedConjuncts es)
  | .or es =>
    let operands := distributeAll es
    match clauses? operands [[]] with
    | some cs => .and (cs.map clause)
    | none => .or operands
  | e => e

/-- Distributes in some expressions. -/
def distributeAll : List Expression → List Expression
  | [] => []
  | e :: es => distribute e :: distributeAll es

/-- The conjuncts of some expressions after distribution. -/
def distributedConjuncts : List Expression → List Expression
  | [] => []
  | e :: es => flattenAnd (distribute e) ++ distributedConjuncts es

end

/-- The conditions that have to hold together. -/
def split (e : Expression) : List Expression :=
  let simple := conjunctList e
  let normal := flattenAnd (distribute (pushNegations e))
  if simple.length < normal.length then normal else simple

end Expression

end RelGraph.Sparql
