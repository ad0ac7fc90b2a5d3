import RelGraph.Mapping.TermKind
import RelGraph.Mapping.ValueMap

/-!
# Term maps

A term map gives a term on a row: always the same one, or the one that a text made from the row
stands for.
-/

namespace RelGraph.Mapping

open Rdf Sql

/-- What gives a term on a row. -/
inductive TermMap where
  | fixed (t : Term)
  | typed (kind : TermKind) (value : ValueMap)
  deriving DecidableEq

namespace TermMap

/-- The term on a row, unless a value is missing or not valid. -/
def make? (m : TermMap) (row : Row) : Option Term :=
  match m with
  | .fixed t => some t
  | .typed kind value => (value.fill? row).bind kind.make?

/-- The condition under which a row gives a term. -/
def conditionFor (m : TermMap) (t : Term) : Expr :=
  match m with
  | .fixed t' => Expr.ofBool (t' = t)
  | .typed kind value => Expr.orAll ((kind.textsOf t).map value.conditionFor)

/-- The map that gives a term only, and the condition under which it is given; none if it is
never given. -/
def select? (m : TermMap) (t : Term) : Option (TermMap × Expr) :=
  let condition := m.conditionFor t
  if condition = .never then none else some (.fixed t, condition)

/-- The columns that are read, in the order in which they are used. -/
def columns : TermMap → List Column
  | .fixed _ => []
  | .typed _ value => value.columns

/-- Renames the columns. -/
def rename (f : Column → Column) : TermMap → TermMap
  | .fixed t => .fixed t
  | .typed kind value => .typed kind (value.rename f)

/-- The terms are IRIs. -/
def isIri : TermMap → Bool
  | .fixed t => t.isIri
  | .typed kind _ => kind = .iri

/-- The terms are blank nodes. -/
def isBlank : TermMap → Bool
  | .fixed t => t.isBlank
  | .typed kind _ => kind = .blank

/-- The terms are literals. -/
def isLiteral : TermMap → Bool
  | .fixed t => t.isLiteral
  | .typed kind _ => kind.isLiteral

end TermMap

end RelGraph.Mapping
