import RelGraph.Sql.Aliases
import RelGraph.Sql.Join

/-!
# Relations

A relation says which rows of some tables are read and which of their columns: joins and a
condition select the rows, the projections name the columns.  The relation without rows is
`empty`; every operation that finds out that no row is left gives it.
-/

namespace RelGraph.Sql

/-- The direction of a sort. -/
inductive Direction where
  | ascending
  | descending
  deriving DecidableEq

/-- The other direction. -/
def Direction.reverse : Direction → Direction
  | .ascending => .descending
  | .descending => .ascending

/-- Rows of the tables of one database. -/
structure Relation where
  /-- The database of the tables, if there are any. -/
  database : Option String
  aliases : Aliases
  condition : Expr
  /-- The joins in increasing order. -/
  joins : List Join
  /-- The columns that are read, in increasing order. -/
  projections : List Column
  /-- No two rows agree on all the projections. -/
  unique : Bool
  order : Option (Column × Direction)
  /-- The number of rows that are kept from the start. -/
  limit : Option Nat
  /-- The number of rows that are kept from the end. -/
  limitInverse : Option Nat
  deriving DecidableEq

/-- Relations that can not be combined. -/
inductive RelationError where
  | differentDatabases (first second : String)
  | aliases (e : AliasError)

/-- What keeps the relations apart. -/
def RelationError.message : RelationError → String
  | .differentDatabases first second =>
    "Relations from the databases " ++ first ++ " and " ++ second ++ " can not be joined"
  | .aliases e => e.message

/-- The smaller of two limits, either of which may be missing. -/
def minLimit : Option Nat → Option Nat → Option Nat
  | some a, some b => some (min a b)
  | a, none => a
  | none, b => b

namespace Relation

/-- The relation with a single row and no columns. -/
def trivial : Relation where
  database := none
  aliases := .empty
  condition := .always
  joins := []
  projections := []
  unique := true
  order := none
  limit := none
  limitInverse := none

/-- The relation without rows. -/
def empty : Relation := { trivial with condition := .never }

/-- The relation of a database on which nothing is known yet. -/
def ofDatabase (name : String) : Relation :=
  { trivial with database := some name, unique := false }

/-- The relation has no rows. -/
def isEmpty (r : Relation) : Bool := r.condition = .never

/-- The relation is the one with a single row and no columns. -/
def isTrivial (r : Relation) : Bool := r = trivial

/-! ### Building relations -/

/-- Sets the aliases. -/
def withAliases (r : Relation) (aliases : Aliases) : Relation :=
  if r.isEmpty then r else { r with aliases }

/-- Adds joins. -/
def withJoins (r : Relation) (joins : List Join) : Relation :=
  if r.isEmpty then r else { r with joins := canonical (r.joins ++ joins) }

/-- Declares that no two rows agree on all the projections. -/
def asUnique (r : Relation) : Relation := { r with unique := true }

/-- Sets the order of the rows. -/
def withOrder (r : Relation) (c : Column) (d : Direction) : Relation :=
  if r.isEmpty then r else { r with order := some (c, d) }

/-- Keeps at most the first `n` rows. -/
def withLimit (r : Relation) (n : Nat) : Relation :=
  if r.isEmpty then r else { r with limit := minLimit r.limit (some n) }

/-- Keeps at most the last `n` rows. -/
def withLimitInverse (r : Relation) (n : Nat) : Relation :=
  if r.isEmpty then r else { r with limitInverse := minLimit r.limitInverse (some n) }

/-- Keeps the rows that fulfil a condition. -/
def select (r : Relation) (condition : Expr) : Relation :=
  if condition = .always then r
  else
    let all := Expr.andAll [r.condition, condition]
    if all = .never then empty else { r with condition := all }

/-- Reads the given columns. -/
def project (r : Relation) (columns : List Column) : Relation :=
  if r.isEmpty then empty else { r with projections := canonical columns }

/-! ### Tables -/

/-- The names of the tables that are read, in increasing order. -/
def tables (r : Relation) : List Table :=
  canonical (r.aliases.toList.map Alias.name
    ++ r.joins.flatMap Join.tables
    ++ r.condition.columnList.map Column.table
    ++ r.projections.map Column.table
    ++ r.order.toList.map fun o => o.1.table)

/-- Gives the tables other names. -/
def renameTables (r : Relation) (names : Aliases) : Except AliasError Relation :=
  if r.isEmpty then .ok empty
  else
    match names.compose r.aliases with
    | .ok aliases =>
      .ok { r with
        aliases
        condition := r.condition.rename names.nameColumn
        joins := canonical (r.joins.map (Join.rename names.nameColumn))
        projections := canonical (r.projections.map names.nameColumn)
        order := r.order.map fun o => (names.nameColumn o.1, o.2) }
    | .error e => .error e

/-- The names of the `n`-th copy of each table. -/
def copyNames (r : Relation) (n : Nat) : Except AliasError Aliases :=
  Aliases.ofList (r.tables.map fun t => ⟨t, t.copy n⟩)

/-! ### Joining relations -/

/-- The database of two relations that are joined. -/
def joinDatabase : Option String → Option String → Except RelationError (Option String)
  | some a, some b => if a = b then .ok (some a) else .error (.differentDatabases a b)
  | a, none => .ok a
  | none, b => .ok b

/-- The rows of two relations side by side. -/
def joinTwo (r s : Relation) : Except RelationError Relation :=
  match joinDatabase r.database s.database with
  | .error e => .error e
  | .ok database =>
    match r.aliases.merge s.aliases with
    | .error e => .error (.aliases e)
    | .ok aliases =>
      .ok {
        database
        aliases
        condition := Expr.andAll [r.condition, s.condition]
        joins := canonical (r.joins ++ s.joins)
        projections := canonical (r.projections ++ s.projections)
        unique := r.unique && s.unique
        order := r.order.or s.order
        limit := minLimit r.limit s.limit
        limitInverse := minLimit r.limitInverse s.limitInverse }

/-- Joins some relations to one that is joined already. -/
def joinFrom (joined : Relation) : List Relation → Except RelationError Relation
  | [] => .ok (if joined.isEmpty then empty else joined)
  | r :: rs =>
    if r.isEmpty then .ok empty
    else
      match joined.joinTwo r with
      | .ok joined' => joinFrom joined' rs
      | .error e => .error e

/-- The rows of some relations side by side. -/
def joinAll (rs : List Relation) : Except RelationError Relation :=
  joinFrom trivial rs

end Relation

end RelGraph.Sql
