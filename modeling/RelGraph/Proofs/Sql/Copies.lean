import RelGraph.Proofs.Sql.RenameTables

/-!
# Copies of relations

A copy of a relation reads every table under the name of its copy.  If the condition is in normal
form, a pick is in the copy exactly when its records for the copied tables are in the relation.
-/

namespace RelGraph.Sql

theorem Join.Uniform.rename_nameColumn {j : Join} (h : j.Uniform) (names : Aliases) :
  (j.rename names.nameColumn).Uniform
  := by
  apply h.rename names.nameOf
  intro c _
  rw [names.nameColumn_eq]

namespace Relation

/-- The column of the copy of its table. -/
def copyColumn (n : Nat) (c : Column) : Column := ⟨c.table.copy n, c.name⟩

/-- What is known of a copy of a relation, whatever the form of the condition. -/
structure CopyOf (r s : Relation) (n : Nat) : Prop where
  database : s.database = r.database
  unique : s.unique = r.unique
  tables : ∀ x, x ∈ s.tables ↔ ∃ t ∈ r.tables, t.copy n = x
  aliased : ∀ x ∈ s.tables, ∃ u, s.aliases.tables.get? x = some u
  apart : ∀ t ∈ r.tables, ∀ u ∈ r.tables, t.copy n = u.copy n → t = u
  tableOf : ∀ t ∈ r.tables, s.aliases.tableOf (t.copy n) = r.aliases.tableOf t
  columns : ∀ c ∈ s.columnList, ∃ d ∈ r.columnList, copyColumn n d = c
  projections : ∀ c, c ∈ s.projections ↔ ∃ d ∈ r.projections, copyColumn n d = c
  sound : s.Sound

variable {r s : Relation} {n : Nat} {names : Aliases} (hnames : r.copyNames n = .ok names)

/-- The copies are names for the tables of the relation, all of which get one. -/
theorem renaming_copyNames (hnames : r.copyNames n = .ok names) :
  r.Renaming names
  := by
  apply renaming_ofList hnames
  · rw [List.forall_mem_map]
    intro t ht
    apply ht
  · rw [List.forall_mem_map]
    intro t _ hcopy
    use ⟨t.copy n, (t.copy n).copy n⟩
    simpa using hcopy

include hnames

theorem get?_copyNames {x t : Table} :
  names.tables.get? x = some t ↔ t ∈ r.tables ∧ t.copy n = x
  := by
  rw [(Aliases.get?_of_ofList hnames).2 x t, List.mem_map]
  constructor
  · rintro ⟨u, hu, heq⟩
    cases heq
    use hu
  · rintro ⟨ht, rfl⟩
    use t, ht

theorem nameOf_copyNames {t : Table} (ht : t ∈ r.tables) :
  names.nameOf t = t.copy n
  := (renaming_copyNames hnames).single.nameOf_eq ((get?_copyNames hnames).2 ⟨ht, rfl⟩)

theorem nameColumn_eq (hr : r.Sound) {c : Column} (hc : c ∈ r.columnList) :
  names.nameColumn c = copyColumn n c
  := by
  rw [names.nameColumn_eq, nameOf_copyNames hnames (hr.mem_tables hc)]
  rfl

section

variable (he : r.isEmpty = false) (hs : r.renameTables names = .ok s) {x : Table}

include he hs

/-- Every alias of a copy is the name of a copy. -/
theorem exists_copy_of_get? {u : Table} (hx : s.aliases.tables.get? x = some u) :
  ∃ t ∈ r.tables, t.copy n = x
  := by
  obtain ⟨aliases, hcompose, rfl⟩ := (renameTables_eq_ok he).1 hs
  obtain ⟨t, ht, rfl⟩ := (renaming_copyNames hnames).exists_nameOf_eq hcompose hx
  use t, ht, (nameOf_copyNames hnames ht).symm

/-- Every table of a copy is the copy of a table. -/
theorem exists_copy_of_mem_tables (hjoins : ∀ j ∈ r.joins, j.Uniform) (hx : x ∈ s.tables) :
  ∃ t ∈ r.tables, t.copy n = x
  := by
  have halias := @exists_copy_of_get? r s n names hnames he hs
  obtain ⟨aliases, -, rfl⟩ := (renameTables_eq_ok he).1 hs
  have hrenamed : ∀ j ∈ (r.renamed names aliases).joins, j.Uniform := by
    intro j hj
    rw [renamed, mem_canonical, List.mem_map] at hj
    obtain ⟨j, hj, rfl⟩ := hj
    apply (hjoins j hj).rename_nameColumn names
  obtain ⟨u, hu⟩ | ⟨c, hc, rfl⟩ := (mem_tables_iff hrenamed).1 hx
  · apply halias hu
  · obtain ⟨d, hd, rfl⟩ := exists_of_mem_columnList_renamed hc
    have ht : d.table ∈ r.tables := (mem_tables_iff hjoins).2 (.inr ⟨d, hd, rfl⟩)
    use d.table, ht
    rw [names.nameColumn_eq, nameOf_copyNames hnames ht]

/-- A relation can be copied. -/
theorem copyOf_renameTables (hr : r.Sound) :
  r.CopyOf s n
  := by
  have htables : ∀ x ∈ s.tables, ∃ t ∈ r.tables, t.copy n = x :=
    fun x => exists_copy_of_mem_tables hnames he hs fun j hj => (hr.joins j hj).uniform
  have hrenaming := renaming_copyNames hnames
  obtain ⟨aliases, hcompose, rfl⟩ := (renameTables_eq_ok he).1 hs
  have halias : ∀ t ∈ r.tables, aliases.tables.get? (t.copy n) = some (r.aliases.tableOf t) := by
    intro t ht
    apply (Aliases.get?_of_compose hcompose).2
    exact .inl ⟨t, (get?_copyNames hnames).2 ⟨ht, rfl⟩, rfl⟩
  constructor
  · rfl
  · rfl
  · intro x
    constructor
    · apply htables
    · rintro ⟨t, ht, rfl⟩
      apply mem_tables_of_get? (halias t ht)
  · intro x hx
    obtain ⟨t, ht, rfl⟩ := htables x hx
    use r.aliases.tableOf t, halias t ht
  · intro t ht u hu heq
    rw [← nameOf_copyNames hnames ht, ← nameOf_copyNames hnames hu] at heq
    apply hrenaming.apart ht hu heq
  · intro t ht
    rw [← nameOf_copyNames hnames ht]
    apply hrenaming.tableOf_nameOf hcompose ht
  · intro c hc
    obtain ⟨d, hd, rfl⟩ := exists_of_mem_columnList_renamed hc
    use d, hd, (nameColumn_eq hnames hr hd).symm
  · intro c
    have hcolumns : r.projections.map names.nameColumn = r.projections.map (copyColumn n) := by
      apply List.map_congr_left
      intro d hd
      apply nameColumn_eq hnames hr (mem_columnList_of_mem_projections hd)
    rw [renamed, hcolumns, mem_canonical, List.mem_map]
  · apply sound_renamed hr hrenaming

/-- A copy has the rows of the relation if the condition is in normal form. -/
theorem renamedBy_copy (hr : r.Sound) (hn : r.condition.Normal) :
  r.RenamedBy s fun t => t.copy n
  := (renamedBy_renameTables hr hn (renaming_copyNames hnames) he hs).congr hr
    fun _ ht => nameOf_copyNames hnames ht

end

omit hnames

/-- The database fits a copy as well. -/
theorem CopyOf.fits (h : r.CopyOf s n) (hr : r.Sound) {db : Database} (hfits : r.Fits db) :
  s.Fits db
  := hfits.of_names hr (fun x => (h.tables x).1) h.tableOf h.columns

end Relation

end RelGraph.Sql
