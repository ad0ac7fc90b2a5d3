import RelGraph.Sparql.Clauses
import RelGraph.Sparql.Pattern

/-!
# Pushing filters down

Filters are moved as close as possible to the triple patterns.  A part of a filter enters a
pattern only if every solution of the pattern binds all the variables of that part, so that the
solutions stay the same.
-/

namespace RelGraph.Sparql

open Rdf

namespace Expression

/-- All the variables of the expression are among the given ones. -/
def closedBy (e : Expression) (vs : List Variable) : Bool :=
  e.variableSet.all vs.contains

/-- None of the variables of the expression is among the given ones. -/
def disjointFrom (e : Expression) (vs : List Variable) : Bool :=
  e.variableSet.all fun v => !vs.contains v

end Expression

namespace Pattern

mutual

/-- The pattern with some conditions on its solutions, pushed into it. -/
def push : Pattern → List Expression → Pattern
  | .bgp ps, filters => filterBy (.bgp ps) (.andAll filters)
  | .values vs rows, filters => filterBy (.values vs rows) (.andAll filters)
  | .filter e p, filters => push p (filters ++ e.split)
  | .join l r, filters =>
    let inLeft := fun (e : Expression) => e.closedBy l.certainVariables
    let inRight := fun (e : Expression) => e.closedBy r.certainVariables
    filterBy (.join (push l (filters.filter inLeft)) (push r (filters.filter inRight)))
      (.andAll (filters.filter fun e => !inLeft e && !inRight e))
  | .leftJoin l r condition, filters =>
    let inLeft := fun (e : Expression) => e.closedBy l.certainVariables
    let inRight := fun (e : Expression) => e.closedBy r.certainVariables
    let forRight := filters.filter fun e => inLeft e && inRight e
    let moves := condition.truth?.isNone
      && (inRight condition || condition.disjointFrom l.possibleVariables)
    filterBy
      (.leftJoin (push l (filters.filter inLeft))
        (push r (if moves then forRight ++ condition.split else forRight))
        (if moves then .ofBool true else condition))
      (.andAll (filters.filter fun e => !inLeft e))
  | .union ps, filters => unionAll (pushAll ps filters)
  | .minus l r, filters => .minus (push l filters) (push r [])
  | .extend p v e, filters =>
    let mentions := fun (f : Expression) => f.variableSet.contains v
    filterBy (.extend (push p (filters.filter fun f => !mentions f)) v e)
      (.andAll (filters.filter mentions))
  | .orderBy p keys, filters => filterBy (.orderBy (push p []) keys) (.andAll filters)
  | .project p vs, filters => filterBy (.project (push p []) vs) (.andAll filters)
  | .distinct p, filters => filterBy (.distinct (push p [])) (.andAll filters)
  | .reduced p, filters => filterBy (.reduced (push p [])) (.andAll filters)
  | .slice p start length, filters =>
    filterBy (.slice (push p []) start length) (.andAll filters)

/-- Some patterns with the same conditions. -/
def pushAll : List Pattern → List Expression → List Pattern
  | [], _ => []
  | p :: ps, filters => push p filters :: pushAll ps filters

end

/-- The pattern with its filters pushed down. -/
def pushFilters (p : Pattern) : Pattern := push p []

end Pattern

end RelGraph.Sparql
