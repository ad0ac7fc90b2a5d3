import RelGraph.Engine.SqlFilter
import RelGraph.Mapping.Bgp
import RelGraph.Sparql.Pattern

/-!
# Plans

A plan is a graph pattern in which the triple patterns are replaced by solution maps.  A plan
can be narrowed to a binding: it keeps the solutions that are compatible with the binding, and
it may keep others.
-/

namespace RelGraph.Engine

open Rdf Sql Sparql Mapping

/-- How the solutions of a pattern are found. -/
inductive Plan where
  /-- The bindings of some solution maps, one after the other. -/
  | maps (ms : List SolutionMap)
  | join (left right : Plan)
  /-- The right plan is narrowed to each solution of the left one. -/
  | leftJoin (left right : Plan) (condition : Expression)
  | filter (inner : Plan) (condition : Expression)
  | union (branches : List Plan)
  | minus (left right : Plan)
  | extend (inner : Plan) (v : Variable) (e : Expression)
  | values (bs : List Binding)
  | orderBy (inner : Plan) (keys : List SortKey)
  | project (inner : Plan) (vs : List Variable)
  | distinct (inner : Plan)
  | reduced (inner : Plan)
  | slice (inner : Plan) (start : Nat) (length : Option Nat)
  deriving Inhabited

namespace Plan

/-! ### Filters -/

/-- Selects the rows of a solution map that fulfil an expression, if it can be converted. -/
def selectIn (e : Expression) (m : SolutionMap) : SolutionMap :=
  match toSql? m e with
  | some condition => m.select condition
  | none => m

/-- Converts conditions for each of some solution maps, and gives those that could not be
converted for all of them. -/
def convertFilters : List Expression → List SolutionMap → List SolutionMap × List Expression
  | [], ms => (ms, [])
  | e :: es, ms =>
    let (selected, remaining) := convertFilters es (ms.map (selectIn e))
    (selected, if ms.all fun m => (toSql? m e).isSome then remaining else e :: remaining)

/-- The plan of some solution maps with a filter, which is converted as far as possible. -/
def filterMaps (ms : List SolutionMap) (e : Expression) : Plan :=
  let (selected, remaining) := convertFilters e.conjunctList ms
  let plan := Plan.maps (selected.filter fun m => !m.isEmpty)
  let rest := Expression.andAll remaining
  if rest.truth? = some true then plan else .filter plan rest

/-! ### Plans of patterns -/

/-- The binding of a row of inline values. -/
def rowBinding (vs : List Variable) (row : List (Option Term)) : Binding :=
  .ofList ((vs.zip row).filterMap fun p => p.2.map fun t => (p.1, t))

mutual

/-- The plan of a pattern over some triple maps.  Filters right above triple patterns are
converted to SQL if `convert` is set. -/
def ofPattern (maps : List TripleMap) (convert : Bool) : Pattern → Except RelationError Plan
  | .bgp ps => do return .maps (← solutionMaps ps maps)
  | .filter e (.bgp ps) => do
    let ms ← solutionMaps ps maps
    return if convert then filterMaps ms e else .filter (.maps ms) e
  | .filter e p => do return .filter (← ofPattern maps convert p) e
  | .join l r => do return .join (← ofPattern maps convert l) (← ofPattern maps convert r)
  | .leftJoin l r e => do
    return .leftJoin (← ofPattern maps convert l) (← ofPattern maps convert r) e
  | .union ps => do return .union (← ofPatterns maps convert ps)
  | .minus l r => do return .minus (← ofPattern maps convert l) (← ofPattern maps convert r)
  | .extend p v e => do return .extend (← ofPattern maps convert p) v e
  | .values vs rows => .ok (.values (rows.map (rowBinding vs)))
  | .orderBy p keys => do return .orderBy (← ofPattern maps convert p) keys
  | .project p vs => do return .project (← ofPattern maps convert p) vs
  | .distinct p => do return .distinct (← ofPattern maps convert p)
  | .reduced p => do return .reduced (← ofPattern maps convert p)
  | .slice p start length => do return .slice (← ofPattern maps convert p) start length

/-- The plans of some patterns. -/
def ofPatterns (maps : List TripleMap) (convert : Bool) :
    List Pattern → Except RelationError (List Plan)
  | [] => .ok []
  | p :: ps => do return (← ofPattern maps convert p) :: (← ofPatterns maps convert ps)

end

/-! ### Narrowing -/

mutual

/-- Narrows a plan to a binding.  What is optional or taken away is left as it is, since the
left solutions depend on all of it; so is a slice, which counts all the solutions. -/
def narrow (b : Binding) : Plan → Plan
  | .maps ms => .maps (ms.filterMap fun m => m.substitute? b)
  | .join l r => .join (narrow b l) (narrow b r)
  | .leftJoin l r e => .leftJoin (narrow b l) r e
  | .filter p e => .filter (narrow b p) e
  | .union ps => .union (narrowAll b ps)
  | .minus l r => .minus (narrow b l) r
  | .extend p v e => .extend (narrow (b.erase v) p) v e
  | .values bs => .values (bs.filter fun c => c.compatible b)
  | .orderBy p keys => .orderBy (narrow b p) keys
  | .project p vs => .project (narrow (b.restrict vs) p) vs
  | .distinct p => .distinct (narrow b p)
  | .reduced p => .reduced (narrow b p)
  | .slice p start length => .slice p start length

/-- Narrows some plans to a binding. -/
def narrowAll (b : Binding) : List Plan → List Plan
  | [] => []
  | p :: ps => narrow b p :: narrowAll b ps

end

end Plan

end RelGraph.Engine
