import RelGraph.Rdf.TriplePattern
import RelGraph.Sparql.Expression

/-!
# Graph patterns

The patterns that can be evaluated, and the variables that their solutions bind: those that
every solution binds, and those that some solution may bind.
-/

namespace RelGraph.Sparql

open Rdf

/-- An expression by whose values solutions are sorted. -/
structure SortKey where
  expression : Expression
  descending : Bool

/-- A graph pattern. -/
inductive Pattern where
  | bgp (patterns : List TriplePattern)
  | join (left right : Pattern)
  /-- The solutions of the right pattern are optional. -/
  | leftJoin (left right : Pattern) (condition : Expression)
  | filter (condition : Expression) (inner : Pattern)
  | union (branches : List Pattern)
  | minus (left right : Pattern)
  | extend (inner : Pattern) (v : Variable) (e : Expression)
  | values (vs : List Variable) (rows : List (List (Option Term)))
  | orderBy (inner : Pattern) (keys : List SortKey)
  | project (inner : Pattern) (vs : List Variable)
  | distinct (inner : Pattern)
  | reduced (inner : Pattern)
  | slice (inner : Pattern) (start : Nat) (length : Option Nat)
  deriving Inhabited

namespace Pattern

/-! ### Building patterns -/

/-- A pattern with a filter, which is left out if it always holds. -/
def filterBy (p : Pattern) (condition : Expression) : Pattern :=
  if condition.truth? = some true then p else .filter condition p

/-- The branches of some patterns, those of nested unions in place of these. -/
def branchesOf : List Pattern → List Pattern
  | [] => []
  | .union inner :: ps => inner ++ branchesOf ps
  | p :: ps => p :: branchesOf ps

/-- The union of some patterns. -/
def unionAll (ps : List Pattern) : Pattern :=
  match branchesOf ps with
  | [p] => p
  | branches => .union branches

/-! ### Variables -/

/-- The variables of triple patterns. -/
def tripleVariables (ps : List TriplePattern) : List Variable :=
  canonical (ps.flatMap TriplePattern.variableList)

/-- The variables that have a term in each row. -/
def fullColumns (vs : List Variable) (rows : List (List (Option Term))) : List Variable :=
  canonical ((vs.zipIdx.filter fun p => rows.all fun row => row[p.2]?.join.isSome).map (·.1))

mutual

/-- The variables that every solution binds, in increasing order. -/
def certainVariables : Pattern → List Variable
  | .bgp ps => tripleVariables ps
  | .join l r => canonical (certainVariables l ++ certainVariables r)
  | .leftJoin l _ _ => certainVariables l
  | .filter _ p => certainVariables p
  | .union ps => commonVariables ps
  | .minus l _ => certainVariables l
  | .extend p _ _ => certainVariables p
  | .values vs rows => fullColumns vs rows
  | .orderBy p _ => certainVariables p
  | .project p vs => canonical (vs.filter (certainVariables p).contains)
  | .distinct p => certainVariables p
  | .reduced p => certainVariables p
  | .slice p _ _ => certainVariables p

/-- The variables that every solution of each of some patterns binds. -/
def commonVariables : List Pattern → List Variable
  | [] => []
  | [p] => certainVariables p
  | p :: q :: ps => (certainVariables p).filter (commonVariables (q :: ps)).contains

end

mutual

/-- The variables that a solution may bind, in increasing order. -/
def possibleVariables : Pattern → List Variable
  | .bgp ps => tripleVariables ps
  | .join l r => canonical (possibleVariables l ++ possibleVariables r)
  | .leftJoin l r _ => canonical (possibleVariables l ++ possibleVariables r)
  | .filter _ p => possibleVariables p
  | .union ps => canonical (allVariables ps)
  | .minus l _ => possibleVariables l
  | .extend p v _ => canonical (v :: possibleVariables p)
  | .values vs _ => canonical vs
  | .orderBy p _ => possibleVariables p
  | .project _ vs => canonical vs
  | .distinct p => possibleVariables p
  | .reduced p => possibleVariables p
  | .slice p _ _ => possibleVariables p

/-- The variables that a solution of some pattern may bind. -/
def allVariables : List Pattern → List Variable
  | [] => []
  | p :: ps => possibleVariables p ++ allVariables ps

end

/-- The variables of the table of solutions: those that are projected, or else all that a
solution may bind, except for those that stand for blank nodes. -/
def resultVariables : Pattern → List Variable
  | .project _ vs => vs
  | .distinct p => resultVariables p
  | .reduced p => resultVariables p
  | .slice p _ _ => resultVariables p
  | .orderBy p _ => resultVariables p
  | .filter _ p => resultVariables p
  | p => p.possibleVariables.filter fun v => !(['_', ':'].isPrefixOf v.name.toList)

end Pattern

end RelGraph.Sparql
