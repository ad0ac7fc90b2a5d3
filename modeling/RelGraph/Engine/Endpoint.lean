import RelGraph.Engine.PlanText
import RelGraph.Engine.Results
import RelGraph.Sparql.PushDown

/-!
# Queries on mapped databases

An endpoint answers queries on the triples of some triple maps.  Nothing is sent to the database
before results are read, except for a query that asks whether there is a solution.
-/

namespace RelGraph.Engine

open Rdf Sql Sparql Mapping

/-- An endpoint for the triples of some triple maps. -/
structure Endpoint where
  maps : List TripleMap
  /-- Filters are converted to SQL where possible. -/
  convertsFilters : Bool
  /-- Filters are pushed down to the triple patterns. -/
  pushesFilters : Bool
  /-- The number of rows that are fetched at a time, at least 1. -/
  fetchSize : Nat

/-- The bound on the number of steps to the next result. -/
def maxSteps : Nat := Nat.pow 2 64

namespace Endpoint

variable {κ σ : Type}

/-- The endpoint with the usual settings. -/
def ofMaps (maps : List TripleMap) : Endpoint where
  maps
  convertsFilters := false
  pushesFilters := true
  fetchSize := 1000

/-- Sets the number of rows that are fetched at a time. -/
def withFetchSize (e : Endpoint) (n : Nat) : Endpoint := { e with fetchSize := max n 1 }

/-- The plan of a pattern. -/
def plan (e : Endpoint) (p : Pattern) : Except EvalError Plan :=
  match Plan.ofPattern e.maps e.convertsFilters (if e.pushesFilters then p.pushFilters else p) with
  | .ok plan => .ok plan
  | .error err => .error (.relation err)

/-- The pattern of a query. -/
def patternOf (q : Algebra.Query) : Except EvalError Pattern :=
  match q.toPattern with
  | .ok p => .ok p
  | .error u => .error (.unsupported u)

/-- Explains how a query is answered. -/
def explain (e : Endpoint) (q : Algebra.Query) : Except EvalError (List String) := do
  let p ← patternOf q
  let plan ← e.plan p
  return plan.lines 0

/-- Asks whether a plan has a solution. -/
def ask (B : Backend σ κ) (e : Endpoint) (p : Plan) (s : σ) : Except EvalError Bool × σ :=
  let m := Solutions.machine B e.fetchSize
  match m.pullGuarded B.cancelled maxSteps (some (.ofPlan p)) s with
  | (.item (.ok _), t, s') => (.ok true, m.closeGuarded t s')
  | (.item (.error err), t, s') => (.error err, m.closeGuarded t s')
  | (_, t, s') => (.ok false, m.closeGuarded t s')

/-- Answers a query. -/
def execute (B : Backend σ κ) (e : Endpoint) (q : Algebra.Query) (s : σ) :
    Except EvalError (Results κ) × σ :=
  match (do let p ← patternOf q; let plan ← e.plan p; return (p, plan)) with
  | .error err => (.error err, s)
  | .ok (p, plan) =>
    match q.form with
    | .ask =>
      let (r, s') := ask B e plan s
      (r.map fun b => .single (some (.ok (.truth b))), s')
    | .construct template => (.ok (.graph ⟨some (.ofPlan plan), template, [], [], 0⟩), s)
    | _ => (.ok (.table p.resultVariables (some (.ofPlan plan))), s)

/-- The triples with the given terms. -/
def find (e : Endpoint) (s p o : Option Term) : Results κ :=
  .triples (some ⟨.ofMaps (e.maps.filterMap fun m => m.select? s p o), []⟩)

/-- The bindings of some triple patterns that fulfil a condition. -/
def bindings (e : Endpoint) (ps : List TriplePattern) (condition : Option Expression) :
    Except EvalError (Results κ) := do
  let p :=
    match condition with
    | some c => Pattern.filterBy (.bgp ps) c
    | none => .bgp ps
  let plan ← e.plan p
  return .bindings (some (.ofPlan plan))

end Endpoint

end RelGraph.Engine
