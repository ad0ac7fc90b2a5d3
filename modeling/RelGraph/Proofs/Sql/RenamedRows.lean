import RelGraph.Proofs.Sql.Places
import RelGraph.Proofs.Sql.RenameTables

/-!
# Rows of relations with renamed tables

The places of a renamed relation are those of the relation, seen under the new names.  So the
answers have the same rows, each as often as in the other one, up to the names of their columns.
-/

namespace RelGraph.Sql

/-- A function on the members of a list can be moved along new names that tell them apart. -/
theorem exists_moved {α β γ : Type} {as : List α} {name : α → β}
    (h : ∀ a ∈ as, ∀ b ∈ as, name a = name b → a = b) (f : α → γ) (d : γ) :
  ∃ g : β → γ, (∀ a ∈ as, g (name a) = f a) ∧ ∀ x, (∀ a ∈ as, name a ≠ x) → g x = d
  := by
  classical
  use fun x => if hx : ∃ a ∈ as, name a = x then f hx.choose else d
  constructor
  · intro a ha
    have hx : ∃ b ∈ as, name b = name a := ⟨a, ha, rfl⟩
    rw [dif_pos hx, h _ hx.choose_spec.1 a ha hx.choose_spec.2]
  · intro x hx
    rw [dif_neg]
    rintro ⟨a, ha, heq⟩
    apply hx a ha heq

/-! ### Rows with renamed columns -/

namespace Row

variable {cs : List Column} {f : Column → Column} {cells cells' : Column → Cell}

/-- The row with other names for its columns, in their new order. -/
def rename (f : Column → Column) (row : Row) : Row := ofCells (row.cells.map fun p => (f p.1, p.2))

theorem rename_sample (h : ∀ c ∈ cs, cells' (f c) = cells c) :
  (sample cs cells).rename f = sample (canonical (cs.map f)) cells'
  := by
  symm
  apply sample_eq_ofCells (increasing_canonical _)
  rintro ⟨d, cell⟩
  rw [cells_sample, List.map_map, List.mem_map, mem_canonical, List.mem_map]
  constructor
  · rintro ⟨c, hc, heq⟩
    cases heq
    exact ⟨⟨c, hc, rfl⟩, (h c hc).symm⟩
  · rintro ⟨⟨c, hc, rfl⟩, hcell⟩
    use c, hc
    rw [show cell = cells' (f c) from hcell, h c hc]
    rfl

section

variable (hf : ∀ c ∈ cs, ∀ d ∈ cs, f c = f d → c = d)

include hf

theorem get?_rename_sample {c : Column} (hc : c ∈ cs) :
  ((sample cs cells).rename f).get? (f c) = (sample cs cells).get? c
  := by
  obtain ⟨cells', hcells', -⟩ := exists_moved hf cells none
  rw [rename_sample hcells', get?_sample_of_mem, get?_sample_of_mem _ hc, hcells' c hc]
  rw [mem_canonical]
  apply List.mem_map_of_mem hc

/-- New names that tell the columns apart tell the rows apart. -/
theorem sample_eq_of_rename_eq
    (h : (sample cs cells).rename f = (sample cs cells').rename f) :
  sample cs cells = sample cs cells'
  := by
  apply sample_congr
  intro c hc
  rw [← get?_sample_of_mem cells hc, ← get?_rename_sample hf hc, h, get?_rename_sample hf hc,
    get?_sample_of_mem cells' hc]

end

end Row

/-! ### Places of renamed relations -/

namespace Relation

open Database

namespace RenamedBy

variable {r s : Relation} {name : Table → Table} {db : Database} {rows rows' : List Row}
  (h : r.RenamedBy s name) (hr : r.Sound)

include h hr

theorem rowAt_eq (i : Place) :
  s.rowAt db i = (r.rowAt db (i.under r.tables name)).rename (Column.under name)
  := by
  have hrename : (Row.sample r.projections ((db.pickAt s.aliases i).under name).cell).rename
      (Column.under name) = Row.sample (canonical (r.projections.map (Column.under name)))
        (db.pickAt s.aliases i).cell :=
    Row.rename_sample fun c _ => rfl
  rw [rowAt_under h.tableOf hr, hrename, ← h.projections, rowAt]

/-- The places of the renamed relation are those of the relation under the new names. -/
theorem perm_places {places places' : List Place} (hread : r.ReadFrom db rows places)
    (hread' : s.ReadFrom db rows' places') :
  (places'.map fun i => i.under r.tables name).Perm places
  := by
  have hnodup : (places'.map fun i => i.under r.tables name).Nodup := by
    apply hread'.nodup.map_on
    intro i hi i' hi' heq
    apply eq_of_mem_places s.nodup_tables ((hread'.mem_iff i).1 hi).1 ((hread'.mem_iff i').1 hi').1
    intro x hx
    obtain ⟨t, ht, rfl⟩ := (h.tables x).1 hx
    simpa [Place.under, ht] using congrFun heq t
  rw [List.perm_ext_iff_of_nodup hnodup hread.nodup]
  intro j
  rw [List.mem_map, hread.mem_iff]
  constructor
  · rintro ⟨i, hi, rfl⟩
    obtain ⟨hi, hholds⟩ := (hread'.mem_iff i).1 hi
    constructor
    · apply under_mem_places h.tableOf s.nodup_tables _ hi
      intro t ht
      apply (h.tables _).2 ⟨t, ht, rfl⟩
    · rw [holds_under_iff h.tableOf hr, ← h.holds]
      apply hholds
  · rintro ⟨hj, hholds⟩
    rw [mem_places_iff r.nodup_tables] at hj
    obtain ⟨i, hi, hzero⟩ := exists_moved h.apart j 0
    have hunder : Place.under i r.tables name = j := by
      funext t
      rw [Place.under]
      split
      · rename_i ht
        apply hi t ht
      · rename_i ht
        apply (hj.2 t ht).symm
    use i
    rw [hread'.mem_iff, mem_places_iff s.nodup_tables]
    refine ⟨⟨⟨?_, ?_⟩, ?_⟩, hunder⟩
    · intro x hx
      obtain ⟨t, ht, rfl⟩ := (h.tables x).1 hx
      rw [h.tableOf t ht, hi t ht]
      apply hj.1 t ht
    · intro x hx
      apply hzero
      rintro t ht rfl
      apply hx ((h.tables _).2 ⟨t, ht, rfl⟩)
    · rw [h.holds, ← holds_under_iff h.tableOf hr, hunder]
      apply hholds

/-- The answers have the same rows, up to the names of the columns. -/
theorem perm_answer (hrows : db.answer ⟨r⟩ = .ok rows) (hrows' : db.answer ⟨s⟩ = .ok rows') :
  rows'.Perm (rows.map (Row.rename (Column.under name)))
  := by
  obtain ⟨places, hread⟩ := exists_readFrom hr hrows
  obtain ⟨places', hread'⟩ := exists_readFrom h.sound hrows'
  have hplaces : (places'.map (s.rowAt db)).Perm
      ((places.map (r.rowAt db)).map (Row.rename (Column.under name))) := by
    have hperm := ((h.perm_places hr hread hread').map (r.rowAt db)).map
      (Row.rename (Column.under name))
    rw [List.map_map, List.map_map] at hperm
    rw [List.map_congr_left fun i _ => h.rowAt_eq hr i]
    apply hperm
  cases hunique : r.unique with
  | true =>
    apply (hread'.perm (h.unique.trans hunique)).trans
    apply hplaces.trans
    apply ((hread.perm hunique).map _).symm
  | false =>
    have hnodup : (rows.map (Row.rename (Column.under name))).Nodup := by
      apply (hread.distinct hunique).map_on
      intro row hrow row' hrow' heq
      obtain ⟨i, -, rfl⟩ := hread.mem row hrow
      obtain ⟨i', -, rfl⟩ := hread.mem row' hrow'
      apply Row.sample_eq_of_rename_eq _ heq
      intro c hc d hd hcd
      rw [Column.under, Column.under, Column.mk.injEq] at hcd
      have ht := h.apart _ (hr.mem_tables (mem_columnList_of_mem_projections hc)) _
        (hr.mem_tables (mem_columnList_of_mem_projections hd)) hcd.1
      cases c
      cases d
      simp_all
    rw [List.perm_ext_iff_of_nodup (hread'.distinct (h.unique.trans hunique)) hnodup]
    intro row
    rw [hread'.mem_rows_iff h.sound hrows', hplaces.mem_iff, List.mem_map, List.mem_map]
    simp only [hread.mem_rows_iff hr hrows]

end RenamedBy

/-- Tables can be renamed, and the answers have the same rows up to the names of the columns. -/
theorem exists_answer_renameTables {r : Relation} {names : Aliases} {db : Database} (hr : r.Sound)
    (hn : r.condition.Normal) (hfits : r.Fits db) (hdb : db.Rectangular) (h : r.Renaming names) :
  ∃ s rows rows', r.renameTables names = .ok s ∧ db.answer ⟨r⟩ = .ok rows
    ∧ db.answer ⟨s⟩ = .ok rows' ∧ rows'.Perm (rows.map (Row.rename names.nameColumn))
  := by
  cases he : r.isEmpty with
  | true =>
    have hanswer : db.answer ⟨empty⟩ = .ok [] := rfl
    use empty, [], [], by rw [renameTables, if_pos he], answer_of_isEmpty hr hfits hdb he, hanswer
    rfl
  | false =>
    obtain ⟨aliases, hcompose⟩ := h.exists_compose
    have hs := (renameTables_eq_ok he).2 ⟨aliases, hcompose, rfl⟩
    have hrenamed := renamedBy_renameTables hr hn h he hs
    obtain ⟨rows, hrows, -⟩ := exists_answer hr hfits hdb
    obtain ⟨rows', hrows', -⟩ := exists_answer hrenamed.sound (hrenamed.fits hr hfits) hdb
    use r.renamed names aliases, rows, rows', hs, hrows, hrows'
    rw [nameColumn_eq_under]
    apply hrenamed.perm_answer hr hrows hrows'

end Relation

end RelGraph.Sql
