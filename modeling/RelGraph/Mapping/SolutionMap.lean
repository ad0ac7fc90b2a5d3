import RelGraph.Mapping.TermMap
import RelGraph.Rdf.Binding
import RelGraph.Sql.Relation

/-!
# Solution maps

A solution map gives a binding on each row of a relation: each variable has a term map.
Besides, some term maps only check that they give the term that their variable has.
-/

namespace RelGraph.Mapping

open Rdf Sql

/-- A relation whose rows give bindings. -/
structure SolutionMap where
  relation : Relation
  /-- The term maps of the variables. -/
  terms : SortedMap Variable TermMap
  /-- The term maps that have to give the term of their variable. -/
  checks : List (Variable × TermMap)
  deriving DecidableEq

namespace SolutionMap

/-- The solution map of a relation, of which the columns of the term maps are read. -/
def build (relation : Relation) (terms : SortedMap Variable TermMap)
    (checks : List (Variable × TermMap)) : SolutionMap where
  relation := relation.project
    (terms.values.flatMap TermMap.columns ++ checks.flatMap fun c => c.2.columns)
  terms
  checks

/-- The solution map of a relation without checks. -/
def ofRelation (relation : Relation) (terms : List (Variable × TermMap)) : SolutionMap :=
  build relation (.ofList terms) []

/-- Adds checks. -/
def withChecks (m : SolutionMap) (checks : List (Variable × TermMap)) : SolutionMap :=
  build m.relation m.terms (m.checks ++ checks)

/-- The solution map with a single binding of no variable. -/
def trivial : SolutionMap := ⟨.trivial, .empty, []⟩

/-- The term map of a variable. -/
def termMap? (m : SolutionMap) (v : Variable) : Option TermMap := m.terms.get? v

/-- There are no bindings. -/
def isEmpty (m : SolutionMap) : Bool := m.relation.isEmpty

/-- Keeps the rows that fulfil a condition. -/
def select (m : SolutionMap) (condition : Expr) : SolutionMap :=
  { m with relation := m.relation.select condition }

/-- Restricts the term map of a variable to the term of a binding, and gives the condition. -/
def narrow? (b : Binding) (v : Variable) (m : TermMap) : Option (TermMap × Expr) :=
  match b.get? v with
  | some t => m.select? t
  | none => some (m, .always)

/-- The conditions of the checks on variables of a binding, and the checks on other ones. -/
def narrowChecks? (b : Binding) :
    List (Variable × TermMap) → Option (List Expr × List (Variable × TermMap))
  | [] => some ([], [])
  | (v, m) :: rest => do
    match b.get? v with
    | some t =>
      let (_, condition) ← m.select? t
      let (conditions, checks) ← narrowChecks? b rest
      return (condition :: conditions, checks)
    | none =>
      let (conditions, checks) ← narrowChecks? b rest
      return (conditions, (v, m) :: checks)

/-- Restricts a solution map to the terms of a binding; none if no compatible binding is
given. -/
def substitute? (m : SolutionMap) (b : Binding) : Option SolutionMap := do
  let narrowed ← m.terms.map? (narrow? b)
  let (conditions, checks) ← narrowChecks? b m.checks
  let relation := m.relation.select (Expr.andAll (narrowed.values.map (·.2) ++ conditions))
  if relation.isEmpty then none
  else some (build relation (narrowed.map fun _ p => p.1) checks)

/-- The binding of a row. -/
def make? (m : SolutionMap) (row : Row) : Option Binding := do
  let terms ← m.terms.map? fun _ t => t.make? row
  let b : Binding := ⟨terms⟩
  if m.checks.all fun c => b.get? c.1 = c.2.make? row then some b else none

end SolutionMap

end RelGraph.Mapping
