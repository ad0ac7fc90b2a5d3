import RelGraph.Mapping.BlankKey
import RelGraph.Mapping.Template

/-!
# Value maps

A value map gives a text on a row: the value of a column, a filled template, or the key of a
blank node.
-/

namespace RelGraph.Mapping

open Sql

/-- What gives a text on a row. -/
inductive ValueMap where
  | column (c : Column)
  | template (t : Template)
  | blankKey (k : BlankKey)
  deriving DecidableEq

instance : Spelled ValueMap where
  words
    | .column c => "0" :: Spelled.words c
    | .template t => "1" :: Spelled.words t
    | .blankKey k => "2" :: Spelled.words k
  words_append_inj {a b r s} h := by
    cases a <;> cases b <;> simp at h ⊢ <;> exact Spelled.words_append_inj h

namespace ValueMap

/-- The text on a row, unless a value is missing. -/
def fill? (v : ValueMap) (row : Row) : Option String :=
  match v with
  | .column c => row.get? c
  | .template t => t.fill? row
  | .blankKey k => k.fill? row

/-- The condition under which a row gives a text. -/
def conditionFor (v : ValueMap) (text : String) : Expr :=
  match v with
  | .column c => Expr.columnIs c text
  | .template t => t.conditionFor text
  | .blankKey k => k.conditionFor text

/-- The columns that are read, in the order in which they are used. -/
def columns : ValueMap → List Column
  | .column c => [c]
  | .template t => t.columns
  | .blankKey k => k.columns

/-- Renames the columns. -/
def rename (f : Column → Column) : ValueMap → ValueMap
  | .column c => .column (f c)
  | .template t => .template (t.rename f)
  | .blankKey k => .blankKey (k.rename f)

/-- The condition under which two value maps give the same text.  A column is never compared
with a template, nor templates of different shapes with each other. -/
def agreement : ValueMap → ValueMap → Expr
  | .column a, .column b => Expr.columnsEqual a b
  | .template a, .template b => if a.sameShape b then a.columnsEqual b else .never
  | .blankKey a, .blankKey b => if a.sameShape b then a.columnsEqual b else .never
  | _, _ => .never

end ValueMap

end RelGraph.Mapping
