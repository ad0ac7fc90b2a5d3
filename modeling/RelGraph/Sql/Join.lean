import RelGraph.Sql.Expr

/-!
# Joins

An equality of columns of two different tables.  The smaller of the two tables is always on
the left and the pairs of columns are in increasing order, so that a join does not depend on
how it was written down.
-/

namespace RelGraph.Sql

/-- The pairs of columns on which two tables are joined. -/
structure Join where
  pairs : List (Column × Column)
  nonempty : pairs ≠ []
  deriving DecidableEq

instance : Spelled Join :=
  Spelled.ofInjective Join.pairs fun {a b} h => by
    cases a; cases b; simpa using h

/-- Pairs of columns that make no join. -/
inductive JoinError where
  | noColumns
  | sameTable (t : Table)
  | mixedTables (left right : Table)

/-- What is wrong with the pairs. -/
def JoinError.message : JoinError → String
  | .noColumns => "A join must relate at least one pair of columns"
  | .sameTable t => "The table " ++ t.render ++ " can not be joined with itself without an alias"
  | .mixedTables left right =>
    "All columns of a join must be between " ++ left.render ++ " and " ++ right.render

theorem canonical_ne_nil {α : Type} [Spelled α] {as : List α} (h : as ≠ []) :
  canonical as ≠ []
  := by
  cases as with
  | nil => contradiction
  | cons a as =>
    intro hc
    have ha : a ∈ canonical (a :: as) := by simp
    simp [hc] at ha

namespace Join

/-- The pair with its sides exchanged. -/
def flip (p : Column × Column) : Column × Column := (p.2, p.1)

/-- The pair with the smaller table on the left. -/
def orient (p : Column × Column) : Column × Column :=
  if Spelled.le p.1.table p.2.table then p else flip p

/-- The join of the given pairs, which all relate the tables of the first one. -/
def ofPairs : List (Column × Column) → Except JoinError Join
  | [] => .error .noColumns
  | p :: ps =>
    let left := p.1.table
    let right := p.2.table
    if left = right then .error (.sameTable left)
    else if ps.all fun q => q.1.table = left && q.2.table = right then
      .ok ⟨canonical ((p :: ps).map (if Spelled.le left right then id else flip)),
        canonical_ne_nil (by simp)⟩
    else .error (.mixedTables left right)

/-- The joined tables. -/
def tables (j : Join) : List Table :=
  match j.pairs with
  | [] => []
  | p :: _ => [p.1.table, p.2.table]

/-- The columns of the pairs, left and right in turn. -/
def columns (j : Join) : List Column :=
  j.pairs.flatMap fun p => [p.1, p.2]

/-- The join as a condition. -/
def toExpr (j : Join) : Expr :=
  Expr.andAll (j.pairs.map fun p => Expr.columnsEqual p.1 p.2)

/-- Renames the columns of a join. -/
def rename (f : Column → Column) (j : Join) : Join where
  pairs := canonical (j.pairs.map fun p => orient (f p.1, f p.2))
  nonempty := canonical_ne_nil (by simp [j.nonempty])

/-- Writes a join in SQL. -/
def render (j : Join) : String :=
  " AND ".intercalate (j.pairs.map fun p => p.1.render ++ " = " ++ p.2.render)

end Join

end RelGraph.Sql
