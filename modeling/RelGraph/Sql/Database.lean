import RelGraph.Sql.Row
import RelGraph.Sql.Select

/-!
# Databases in memory

Tables of cells, and the answers of queries on them.  A query looks at every combination of
the rows of its tables, keeps those that fulfil the joins and the condition, sorts them, reads
the projected columns, leaves repetitions out unless the relation is unique, and keeps as many
rows as the limit says.
-/

namespace RelGraph.Sql

/-- The contents of a table. -/
structure TableData where
  columns : List String
  rows : List (List Cell)

/-- The tables of a database. -/
structure Database where
  tables : SortedMap Table TableData
  /-- Closing a cursor reports a failure. -/
  failsOnClose : Bool

namespace Database

/-- The database without tables. -/
def empty : Database := ⟨.empty, false⟩

/-- Adds a table; every row has one cell for each column. -/
def withTable (db : Database) (name : String) (columns : List String) (rows : List (List Cell)) :
    Except DatabaseError Database :=
  match Table.parse name with
  | .error e => .error (.invalidName e)
  | .ok t =>
    match rows.find? fun r => r.length ≠ columns.length with
    | some r => .error (.invalidRow t columns.length r.length)
    | none => .ok { db with tables := db.tables.put t ⟨columns, rows⟩ }

/-! ### Answering queries -/

/-- The cells of a row of a table read under a name; of two columns with one name the later
one counts. -/
def envOf (t : Table) (columns : List String) (cells : List Cell) : Env :=
  ((columns.zip cells).map fun p => (Column.mk t p.1, p.2)).reverse

/-- The rows of a table read under a name. -/
def envsOf (db : Database) (aliases : Aliases) (t : Table) : Except DatabaseError (List Env) :=
  let table := aliases.tableOf t
  match db.tables.get? table with
  | some data => .ok (data.rows.map (envOf t data.columns))
  | none => .error (.unknownTable table)

/-- Every combination of the given ones with rows of some tables; the last table varies
fastest. -/
def combine (db : Database) (aliases : Aliases) (envs : List Env) :
    List Table → Except DatabaseError (List Env)
  | [] => .ok envs
  | t :: ts => do
    let news ← db.envsOf aliases t
    combine db aliases (envs.flatMap fun env => news.map (· ++ env)) ts

/-- The combinations on which a condition is true. -/
def selectEnvs (condition : Expr) : List Env → Except DatabaseError (List Env)
  | [] => .ok []
  | env :: envs => do
    let v ← condition.eval env
    let b ← v.toTruth
    let rest ← selectEnvs condition envs
    return if b = some true then env :: rest else rest

/-- Compares two cells: `NULL` comes first. -/
def compareCells : Cell → Cell → Ordering
  | none, none => .eq
  | none, some _ => .lt
  | some _, none => .gt
  | some a, some b => compare a b

/-- Sorts the combinations by a column; those with equal cells keep their order. -/
def sortEnvs (envs : List Env) : Option (Column × Direction) → Except DatabaseError (List Env)
  | none => .ok envs
  | some (c, d) => do
    let keyed ← envs.mapM fun env => do
      let v ← env.lookup c
      return (v, env)
    let le (a b : Cell × Env) : Bool :=
      match d with
      | .ascending => (compareCells a.1 b.1).isLE
      | .descending => (compareCells a.1 b.1).isGE
    return (keyed.mergeSort le).map (·.2)

/-- Leaves out the members that occur earlier. -/
def dedup {α : Type} [DecidableEq α] (seen : List α) : List α → List α
  | [] => []
  | a :: as => if a ∈ seen then dedup seen as else a :: dedup (a :: seen) as

/-- The condition on the combinations: the joins and the condition of the relation. -/
def fullCondition (r : Relation) : Expr :=
  Expr.andAll (r.joins.map Join.toExpr ++ [r.condition])

/-- The cells of the projected columns. -/
def projectEnv (columns : List Column) (env : Env) : Except DatabaseError (List Cell) :=
  columns.mapM env.lookup

/-- The rows of a query. -/
def answer (db : Database) (q : Select) : Except DatabaseError (List Row) := do
  let r := q.relation
  let envs ← db.combine r.aliases [[]] r.tables
  let selected ← selectEnvs (fullCondition r) envs
  let (order, limit) := q.orderAndLimit
  let sorted ← sortEnvs selected order
  let cells ← sorted.mapM (projectEnv q.columns)
  let kept := if q.distinct then dedup [] cells else cells
  let limited := match limit with
    | some n => kept.take n
    | none => kept
  return limited.map fun cs => ⟨q.columns.zip cs⟩

end Database

end RelGraph.Sql
