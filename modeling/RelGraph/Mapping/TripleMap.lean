import RelGraph.Mapping.TermMap
import RelGraph.Rdf.TriplePattern
import RelGraph.Sql.Relation

/-!
# Triple maps

A triple map gives a triple on each row of a relation, unless one of its terms is missing or
can not stand at its position.
-/

namespace RelGraph.Mapping

open Rdf Sql

/-- A relation whose rows give triples. -/
structure TripleMap where
  relation : Relation
  subject : TermMap
  predicate : TermMap
  object : TermMap
  deriving DecidableEq

namespace TripleMap

/-- The triple map of a relation, of which the columns of the term maps are read. -/
def ofRelation (relation : Relation) (s p o : TermMap) : TripleMap where
  relation := relation.project (s.columns ++ p.columns ++ o.columns)
  subject := s
  predicate := p
  object := o

/-- The three term maps. -/
def termMaps (m : TripleMap) : List TermMap :=
  [m.subject, m.predicate, m.object]

/-- Restricts a term map to a term, if one is given. -/
def selectPosition? (m : TermMap) : Option Term → Option (TermMap × Expr)
  | none => some (m, .always)
  | some t => m.select? t

/-- Restricts a triple map to the triples with the given terms; none if there are no such
triples. -/
def select? (m : TripleMap) (s p o : Option Term) : Option TripleMap := do
  let (subject, c₁) ← selectPosition? m.subject s
  let (predicate, c₂) ← selectPosition? m.predicate p
  let (object, c₃) ← selectPosition? m.object o
  let relation := m.relation.select (Expr.andAll [c₁, c₂, c₃])
  if relation.isEmpty then none else some (ofRelation relation subject predicate object)

/-- Restricts a triple map to the triples with the terms of a pattern. -/
def selectPattern? (m : TripleMap) (p : TriplePattern) : Option TripleMap :=
  m.select? p.subject.term? p.predicate.term? p.object.term?

/-- The triple map that reads the `n`-th copy of each table. -/
def copy (m : TripleMap) (n : Nat) : Except AliasError TripleMap := do
  let names ← m.relation.copyNames n
  let relation ← m.relation.renameTables names
  return {
    relation
    subject := m.subject.rename names.nameColumn
    predicate := m.predicate.rename names.nameColumn
    object := m.object.rename names.nameColumn }

/-- The triple of a row. -/
def make? (m : TripleMap) (row : Row) : Option Triple := do
  let s ← m.subject.make? row
  let p ← m.predicate.make? row
  let o ← m.object.make? row
  Triple.ofTerms? s p o

end TripleMap

end RelGraph.Mapping
