import RelGraph.Sql.Relation

/-!
# Queries

The query that reads the rows of a relation, and its SQL text.  A relation whose rows may
repeat is read without repetition.
-/

namespace RelGraph.Sql

/-- A query: what is read is said by its relation. -/
structure Select where
  relation : Relation

namespace Select

/-- The columns of the rows, in their order. -/
def columns (q : Select) : List Column := q.relation.projections

/-- Rows are read without repetition. -/
def distinct (q : Select) : Bool := !q.relation.unique

/-- The order in which rows are read, and their number.  To read rows from the end, they are
read in the opposite order from the start; a limit from the start takes precedence. -/
def orderAndLimit (q : Select) : Option (Column × Direction) × Option Nat :=
  match q.relation.limit, q.relation.limitInverse with
  | some n, _ => (q.relation.order, some n)
  | none, some n => (q.relation.order.map fun o => (o.1, o.2.reverse), some n)
  | none, none => (q.relation.order, none)

/-- A table in the list of the tables that are read. -/
def renderTable (aliases : Aliases) (t : Table) : String :=
  if aliases.isAlias t then (Alias.mk (aliases.tableOf t) t).render else t.render

/-- The conditions of the query: the joins, then the conjuncts of the condition. -/
def conditions (r : Relation) : List String :=
  r.joins.map Join.render ++
    match r.condition with
    | .always => []
    | .and es => Expr.renderAll es
    | e => [e.render]

/-- A part of the query with its keyword, left out if there is nothing to say. -/
def clause (keyword separator : String) (items : List String) : String :=
  if items.isEmpty then "" else keyword ++ separator.intercalate items

/-- Writes the direction of a sort. -/
def renderDirection : Direction → String
  | .ascending => "ASC"
  | .descending => "DESC"

/-- Writes the query in SQL. -/
def render (q : Select) : String :=
  let r := q.relation
  let (order, limit) := q.orderAndLimit
  "SELECT " ++ (if q.distinct then "DISTINCT " else "")
    ++ (if q.columns.isEmpty then "1" else ", ".intercalate (q.columns.map Column.render))
    ++ clause " FROM " ", " (r.tables.map (renderTable r.aliases))
    ++ clause " WHERE " " AND " (conditions r)
    ++ clause " ORDER BY " "" (order.toList.map fun o => o.1.render ++ " " ++ renderDirection o.2)
    ++ clause " LIMIT " "" (limit.toList.map toString)

end Select

end RelGraph.Sql
