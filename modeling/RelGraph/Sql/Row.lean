import RelGraph.Sql.Value

/-!
# Rows

The cells of one row that a query gives.
-/

namespace RelGraph.Sql

/-- The cells of a row, in the order of the columns of its query. -/
structure Row where
  cells : List (Column × Cell)
  deriving DecidableEq

namespace Row

/-- The row without cells. -/
def empty : Row := ⟨[]⟩

/-- The text of a column, if the row has the column and the cell is not `NULL`. -/
def get? (r : Row) (c : Column) : Option String :=
  (List.lookup c r.cells).join

end Row

end RelGraph.Sql
