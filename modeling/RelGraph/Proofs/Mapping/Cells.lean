import RelGraph.Proofs.Mapping.Agreement
import RelGraph.Proofs.Sql.Picks

/-!
# Terms on cells

A term map only needs the cells of its columns.  So it gives a term on any assignment of cells to
columns, whether or not these stand in one row.
-/

namespace RelGraph.Mapping

open Rdf Sql

namespace TermMap

variable {cells cells' : Column → Cell} {m : TermMap} {t : Term}

/-- The term on the given cells. -/
def makeAt (cells : Column → Cell) (m : TermMap) : Option Term :=
  m.make? (Row.sample m.columns cells)

/-- The term map is unambiguous on the given cells. -/
def UnambiguousAt (cells : Column → Cell) (m : TermMap) : Prop :=
  m.Unambiguous (Row.sample m.columns cells)

@[simp]
theorem makeAt_fixed (cells : Column → Cell) (t : Term) :
  (TermMap.fixed t).makeAt cells = some t
  := rfl

theorem make?_eq_makeAt {row : Row} (h : ∀ c ∈ m.columns, row.get? c = cells c) :
  m.make? row = m.makeAt cells
  := by
  apply make?_congr
  intro c hc
  rw [h c hc, get?_sample_of_mem cells hc]

theorem makeAt_congr (h : ∀ c ∈ m.columns, cells c = cells' c) :
  m.makeAt cells = m.makeAt cells'
  := by
  apply make?_eq_makeAt
  intro c hc
  rw [get?_sample_of_mem cells hc, h c hc]

theorem unambiguousAt_of_row {row : Row} (h : ∀ c ∈ m.columns, row.get? c = cells c)
    (hm : m.Unambiguous row) :
  m.UnambiguousAt cells
  := by
  apply unambiguous_congr _ hm
  intro c hc
  rw [h c hc, get?_sample_of_mem cells hc]

theorem unambiguous_of_unambiguousAt {row : Row} (h : ∀ c ∈ m.columns, row.get? c = cells c)
    (hm : m.UnambiguousAt cells) :
  m.Unambiguous row
  := by
  apply unambiguous_congr _ hm
  intro c hc
  rw [h c hc, get?_sample_of_mem cells hc]

/-- A renamed term map gives the same term on renamed cells. -/
theorem makeAt_rename {f : Column → Column} (h : ∀ c ∈ m.columns, cells' (f c) = cells c) :
  (m.rename f).makeAt cells' = m.makeAt cells
  := by
  apply make?_rename
  intro c hc
  rw [columns_rename, get?_sample_of_mem cells' (List.mem_map_of_mem hc), h c hc,
    get?_sample_of_mem cells hc]

theorem unambiguousAt_rename {f : Column → Column} (h : ∀ c ∈ m.columns, cells' (f c) = cells c)
    (hm : m.UnambiguousAt cells) :
  (m.rename f).UnambiguousAt cells'
  := by
  apply unambiguous_rename _ hm
  intro c hc
  rw [columns_rename, get?_sample_of_mem cells' (List.mem_map_of_mem hc), h c hc,
    get?_sample_of_mem cells hc]

/-- The condition for a term reads the columns of the term map. -/
theorem holdsAt_conditionFor_iff :
  Expr.HoldsAt cells (m.conditionFor t)
    ↔ Expr.truthOn (Row.sample m.columns cells) (m.conditionFor t) = some true
  := by
  apply Expr.holdsAt_iff
  intro c hc
  apply get?_sample_of_mem cells (readsOnly_conditionFor m t c hc)

/-- Cells on which the condition for a term is true give the term. -/
theorem makeAt_of_holdsAt (h : Expr.HoldsAt cells (m.conditionFor t)) :
  m.makeAt cells = some t
  := make?_of_truthOn_conditionFor (holdsAt_conditionFor_iff.1 h)

/-- On cells that give a term, and on which the term map is unambiguous, the condition for the term
is true. -/
theorem holdsAt_of_makeAt (hm : m.LowerCase) (hcells : m.UnambiguousAt cells)
    (h : m.makeAt cells = some t) :
  Expr.HoldsAt cells (m.conditionFor t)
  := holdsAt_conditionFor_iff.2 (truthOn_conditionFor_of_make? hm hcells h)

end TermMap

end RelGraph.Mapping
