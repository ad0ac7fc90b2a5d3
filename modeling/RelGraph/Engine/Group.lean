import RelGraph.Mapping.SolutionMap
import RelGraph.Mapping.TripleMap
import RelGraph.Sql.Select

/-!
# Shared queries

Maps whose relations differ in their columns only are read by one query: each row of it is
given to every one of them.  Only relations without repeated rows are read together.
-/

namespace RelGraph.Engine

open Rdf Sql Mapping

/-- What gives items on the rows of a relation. -/
class Member (α : Type) (ι : outParam Type) where
  /-- The relation whose rows are read. -/
  relation : α → Relation
  /-- The item of a row, if it has one. -/
  make? : α → Row → Option ι

instance : Member SolutionMap Binding where
  relation := SolutionMap.relation
  make? := SolutionMap.make?

instance : Member TripleMap Triple where
  relation := TripleMap.relation
  make? := TripleMap.make?

/-- Maps that are read by one query. -/
structure Group (α : Type) where
  relation : Relation
  members : List α

namespace Group

variable {α ι : Type} [Member α ι]

/-- The group of a single map. -/
def single (m : α) : Group α := ⟨Member.relation m, [m]⟩

/-- The relation differs from the one of the group in its columns only. -/
def accepts (g : Group α) (r : Relation) : Bool :=
  let q := g.relation
  q.database.isSome && q.database = r.database
    && q.unique && r.unique
    && q.joins = r.joins && q.condition = r.condition && q.order = r.order
    && q.limit = r.limit && q.limitInverse = r.limitInverse
    && q.tables = r.tables
    && q.tables.all fun t => q.aliases.tableOf t = r.aliases.tableOf t

/-- Adds a map to a group. -/
def add (g : Group α) (m : α) : Group α where
  relation := g.relation.project (g.relation.projections ++ (Member.relation m).projections)
  members := g.members ++ [m]

/-- Adds a map to the first of some groups that accepts it, or as a group of its own. -/
def place (m : α) : List (Group α) → List (Group α)
  | [] => [single m]
  | g :: gs => if g.accepts (Member.relation m) then g.add m :: gs else g :: place m gs

/-- The groups of some maps. -/
def ofList (ms : List α) : List (Group α) :=
  ms.foldl (fun gs m => place m gs) []

/-- The items of a row. -/
def items (g : Group α) (row : Row) : List ι :=
  g.members.filterMap fun m => Member.make? m row

/-- The query of a group. -/
def query (g : Group α) : Select := ⟨g.relation⟩

end Group

end RelGraph.Engine
