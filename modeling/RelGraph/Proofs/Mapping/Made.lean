import RelGraph.Mapping.TripleMap
import RelGraph.Proofs.Mapping.Narrowing
import RelGraph.Proofs.Mapping.Shape
import RelGraph.Proofs.Sql.Copies

/-!
# Maps that read what they need

The solution maps and the triple maps that can be made read the columns of their term maps.
-/

namespace RelGraph.Mapping

open Rdf Sql

namespace SolutionMap

/-- The solution maps that can be made. -/
inductive Made : SolutionMap → Prop where
  | trivial : Made .trivial
  | ofRelation (relation : Relation) (terms : List (Variable × TermMap)) :
    Made (.ofRelation relation terms)
  | withChecks {m : SolutionMap} (h : Made m) (checks : List (Variable × TermMap)) :
    Made (m.withChecks checks)
  | select {m : SolutionMap} (h : Made m) (condition : Expr) : Made (m.select condition)
  | substitute {m s : SolutionMap} (h : Made m) {b : Binding} (hs : m.substitute? b = some s) :
    Made s

theorem mem_projections_build {relation : Relation} {terms : SortedMap Variable TermMap}
    {checks : List (Variable × TermMap)} (he : (build relation terms checks).isEmpty = false)
    {c : Column} (hc : c ∈ (build relation terms checks).columns) :
  c ∈ (build relation terms checks).relation.projections
  := by
  rw [isEmpty, build, Relation.isEmpty_project] at he
  rw [projections_build he, mem_canonical]
  apply hc

/-- All the columns of the term maps are read. -/
theorem Made.mem_projections {m : SolutionMap} (h : m.Made) (he : m.isEmpty = false) {c : Column}
    (hc : c ∈ m.columns) :
  c ∈ m.relation.projections
  := by
  induction h with
  | trivial => cases hc
  | ofRelation => apply mem_projections_build he hc
  | withChecks => apply mem_projections_build he hc
  | @select m _ condition ih =>
    rw [isEmpty, SolutionMap.select] at he
    rw [SolutionMap.select, (Relation.selects_select he).2]
    apply ih _ hc
    by_contra hm
    rw [Relation.isEmpty_select_of_isEmpty (by simpa [isEmpty] using hm)] at he
    cases he
  | substitute _ hs =>
    obtain ⟨-, -, rfl⟩ := substitute?_eq_some_iff.1 hs
    apply mem_projections_build he hc

end SolutionMap

namespace TripleMap

/-- The triple maps that can be made. -/
inductive Made : TripleMap → Prop where
  | ofRelation (relation : Relation) (s p o : TermMap) : Made (.ofRelation relation s p o)
  | select {m m' : TripleMap} (h : Made m) {s p o : Option Term} (hs : m.select? s p o = some m') :
    Made m'
  | copy {m m' : TripleMap} (h : Made m) {n : Nat} (hs : m.copy n = .ok m') : Made m'

/-- The columns of the term maps. -/
def columns (m : TripleMap) : List Column := m.termMaps.flatMap TermMap.columns

theorem make?_congr {m : TripleMap} {row row' : Row}
    (h : ∀ c ∈ m.columns, row.get? c = row'.get? c) :
  m.make? row = m.make? row'
  := by
  have hterm : ∀ t ∈ m.termMaps, t.make? row = t.make? row' := by
    intro t ht
    apply TermMap.make?_congr
    intro c hc
    apply h c (List.mem_flatMap.2 ⟨t, ht, hc⟩)
  rw [make?, make?, hterm m.subject (by simp [termMaps]), hterm m.predicate (by simp [termMaps]),
    hterm m.object (by simp [termMaps])]

theorem mem_projections_ofRelation {relation : Relation} {s p o : TermMap}
    (he : (ofRelation relation s p o).relation.isEmpty = false) {c : Column} :
  c ∈ (ofRelation relation s p o).relation.projections ↔ c ∈ (ofRelation relation s p o).columns
  := by
  rw [ofRelation, Relation.isEmpty_project] at he
  rw [ofRelation, Relation.project_of_not_isEmpty he, mem_canonical]
  simp [columns, termMaps]

/-- The copy of a map reads the columns of the map under their new names. -/
theorem columns_copy {m m' : TripleMap} {n : Nat} (h : m.copy n = .ok m') :
  ∃ names, m.relation.copyNames n = .ok names ∧ m.relation.renameTables names = .ok m'.relation
    ∧ m'.columns = m.columns.map names.nameColumn
  := by
  simp only [copy, bind_eq_ok, pure_eq_ok] at h
  obtain ⟨names, hnames, relation, hrelation, rfl⟩ := h
  use names, hnames, hrelation
  simp [columns, termMaps, TermMap.columns_rename]

/-- The columns of the term maps are read, and no other ones. -/
theorem Made.mem_projections_iff {m : TripleMap} (h : m.Made) (he : m.relation.isEmpty = false)
    {c : Column} :
  c ∈ m.relation.projections ↔ c ∈ m.columns
  := by
  induction h generalizing c with
  | ofRelation => apply mem_projections_ofRelation he
  | @select m m' _ s p o hs _ =>
    simp only [select?, Option.bind_eq_bind, Option.bind_eq_some_iff] at hs
    obtain ⟨_, -, _, -, _, -, hs⟩ := hs
    split at hs
    · cases hs
    · cases hs
      apply mem_projections_ofRelation he
  | @copy m m' _ n hs ih =>
    obtain ⟨names, -, hrename, hcolumns⟩ := columns_copy hs
    have hm := Relation.isEmpty_of_renameTables hrename he
    obtain ⟨aliases, -, hrelation⟩ := (Relation.renameTables_eq_ok hm).1 hrename
    rw [hcolumns, hrelation, Relation.renamed, mem_canonical, List.mem_map, List.mem_map]
    simp only [ih hm]

end TripleMap

end RelGraph.Mapping
