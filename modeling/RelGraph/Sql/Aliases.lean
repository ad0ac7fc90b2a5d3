import RelGraph.Order.Canonical
import RelGraph.Order.SortedMap
import RelGraph.Sql.Name

/-!
# Table aliases

A table can be read under another name, its alias.  A set of aliases is indexed both ways:
from an alias to the table it stands for, and from a table to the aliases it has.  An alias
stands for one table only; a table may have several aliases, one for each copy of it in a
join, unless the set was built by `ofList`.
-/

namespace RelGraph.Sql

/-- A table and a name it is read under. -/
structure Alias where
  table : Table
  name : Table
  deriving DecidableEq

/-- Writes an alias in SQL. -/
def Alias.render (a : Alias) : String :=
  a.table.render ++ " AS " ++ a.name.render

/-- A set of aliases, indexed both ways. -/
structure Aliases where
  /-- From an alias to the table it stands for. -/
  tables : SortedMap Table Table
  /-- From a table to the aliases it has, in increasing order. -/
  names : SortedMap Table (List Table)
  deriving DecidableEq

/-- Aliases that contradict each other. -/
inductive AliasError where
  | duplicateAlias (name first second : Table)
  | duplicateTable (table first second : Table)

/-- What is wrong with the aliases. -/
def AliasError.message : AliasError → String
  | .duplicateAlias name first second =>
    "The alias " ++ name.render ++ " is used both for " ++ first.render ++ " and "
      ++ second.render
  | .duplicateTable table first second =>
    "The table " ++ table.render ++ " is aliased both as " ++ first.render ++ " and "
      ++ second.render

namespace Aliases

/-- No aliases. -/
def empty : Aliases := ⟨.empty, .empty⟩

/-- There are no aliases. -/
def isEmpty (m : Aliases) : Bool := m.tables.isEmpty

/-- The aliases recorded for a table, in increasing order. -/
def namesOf (m : Aliases) (t : Table) : List Table :=
  (m.names.get? t).getD []

/-- The name is an alias. -/
def isAlias (m : Aliases) (t : Table) : Bool := m.tables.contains t

/-- The table has an alias. -/
def hasAlias (m : Aliases) (t : Table) : Bool := m.names.contains t

/-- The aliases by increasing name. -/
def toList (m : Aliases) : List Alias :=
  m.tables.entries.map fun e => ⟨e.2, e.1⟩

/-- Adds an alias, which must not stand for another table already. -/
def insert (m : Aliases) (a : Alias) : Except AliasError Aliases :=
  match m.tables.get? a.name with
  | some existing =>
    if existing = a.table then .ok m
    else .error (.duplicateAlias a.name existing a.table)
  | none =>
    .ok ⟨m.tables.put a.name a.table,
      m.names.put a.table (place a.name (m.namesOf a.table))⟩

/-- Adds some aliases in turn. -/
def insertAll (m : Aliases) : List Alias → Except AliasError Aliases
  | [] => .ok m
  | a :: as =>
    match m.insert a with
    | .ok m' => m'.insertAll as
    | .error e => .error e

/-- Adds some aliases in turn, none of which may give a table a second name. -/
def insertSingle (m : Aliases) : List Alias → Except AliasError Aliases
  | [] => .ok m
  | a :: as =>
    match (m.namesOf a.table).find? (· ≠ a.name) with
    | some existing => .error (.duplicateTable a.table existing a.name)
    | none =>
      match m.insert a with
      | .ok m' => m'.insertSingle as
      | .error e => .error e

/-- The aliases of a list, in which a table has at most one. -/
def ofList (as : List Alias) : Except AliasError Aliases :=
  empty.insertSingle as

/-- The name under which a table is read.  A table with several aliases keeps its own. -/
def nameOf (m : Aliases) (t : Table) : Table :=
  match m.namesOf t with
  | [a] => a
  | _ => t

/-- The table that a name stands for. -/
def tableOf (m : Aliases) (t : Table) : Table :=
  (m.tables.get? t).getD t

/-- The column of a table under the name the table is read under. -/
def nameColumn (m : Aliases) (c : Column) : Column :=
  if m.hasAlias c.table then { c with table := m.nameOf c.table } else c

/-- The column of the table that the name stands for. -/
def baseColumn (m : Aliases) (c : Column) : Column :=
  if m.isAlias c.table then { c with table := m.tableOf c.table } else c

/-- The aliases of a relation with the aliases `inner` after its names are changed by `m`:
every new name stands for the table that the old one stood for. -/
def compose (m inner : Aliases) : Except AliasError Aliases :=
  empty.insertAll
    ((m.toList.map fun a => ⟨inner.tableOf a.table, a.name⟩)
      ++ inner.toList.filter fun a => !m.hasAlias a.name)

/-- The aliases of two relations that are joined. -/
def merge (m other : Aliases) : Except AliasError Aliases :=
  m.insertAll other.toList

end Aliases

end RelGraph.Sql
