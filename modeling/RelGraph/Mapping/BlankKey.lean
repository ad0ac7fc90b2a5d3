import RelGraph.Sql.Expr
import RelGraph.Sql.Row
import RelGraph.Text.Split

/-!
# Keys of blank nodes

A blank node that stands for a row is known by the name of its class and the values of some
columns.
-/

namespace RelGraph.Mapping

open Sql

/-- A class and the columns that tell its members apart. -/
structure BlankKey where
  className : String
  columns : List Column
  deriving DecidableEq

instance : Spelled BlankKey :=
  Spelled.ofInjective (fun k => (k.className, k.columns)) fun {a b} h => by
    cases a; cases b; simpa using h

namespace BlankKey

/-- The values of the columns on a row, each after a mark. -/
def fillColumns (row : Row) : List Column → Option String
  | [] => some ""
  | c :: cs => do
    let value ← row.get? c
    let tail ← fillColumns row cs
    return "@@" ++ value ++ tail

/-- The text of a key on a row, unless a value is missing. -/
def fill? (k : BlankKey) (row : Row) : Option String :=
  (fillColumns row k.columns).map (k.className ++ ·)

/-- The condition under which a key gives a text. -/
def conditionFor (k : BlankKey) (text : String) : Expr :=
  match (Text.splitMarks text.toList).map String.ofList with
  | [] => .never
  | className :: values =>
    if className = k.className && values.length = k.columns.length then
      Expr.andAll (k.columns.zipWith Expr.columnIs values)
    else .never

/-- The keys belong to one class and have as many columns. -/
def sameShape (k l : BlankKey) : Bool :=
  k.className = l.className && k.columns.length = l.columns.length

/-- The equality of the columns at the same places. -/
def columnsEqual (k l : BlankKey) : Expr :=
  Expr.andAll (k.columns.zipWith Expr.columnsEqual l.columns)

/-- Renames the columns. -/
def rename (f : Column → Column) (k : BlankKey) : BlankKey :=
  { k with columns := k.columns.map f }

end BlankKey

end RelGraph.Mapping
