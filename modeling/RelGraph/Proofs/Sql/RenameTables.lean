import RelGraph.Proofs.Sql.Picks
import RelGraph.Proofs.Sql.Renaming

/-!
# Relations with renamed tables

Some tables of a relation get new names.  A new name may be an old one, as long as the table that
had it gets a new name as well: names can be exchanged, and an alias can get another alias.  Then
every new name stands for the table for which the old one stood, and a pick is in the renamed
relation exactly when the records that it has under the new names are in the relation.
-/

namespace RelGraph.Sql

open Expr

/-! ### Renamed conditions -/

/-- On cells that are renamed as well, a renamed condition is true exactly when the condition is. -/
theorem Expr.Normal.holdsAt_rename {f g : Column → Column} {e : Expr} (h : Normal e)
    (hg : ∀ c ∈ e.columnList, g (f c) = c) {cells cells' : Column → Cell}
    (hcells : ∀ c ∈ e.columnList, cells' (f c) = cells c) :
  HoldsAt cells' (rename f e) ↔ HoldsAt cells e
  := by
  have hr := h.renamed hg
  rw [HoldsAt, HoldsAt, hr.truthOn_eq]
  intro c hc
  rw [get?_sample_of_mem cells' (hr.mem_columnList_iff.2 ⟨c, hc, rfl⟩),
    get?_sample_of_mem cells hc, hcells c hc]

/-- A renamed conjunction is true exactly when the renamed operands are, whatever their form. -/
theorem Expr.holdsAt_rename_andAll {f : Column → Column} {cells : Column → Cell} {es : List Expr} :
  HoldsAt cells (rename f (andAll es)) ↔ ∀ e ∈ es, HoldsAt cells (rename f e)
  := by
  by_cases hnever : .never ∈ es
  · rw [andAll, if_pos hnever]
    exact iff_of_false not_holdsAt_never fun h => not_holdsAt_never (h _ hnever)
  · apply Junction.all_iff .and (P := fun e => HoldsAt cells (rename f e)) holdsAt_always _ hnever
    intro inner
    rw [Junction.node, rename_and_eq, holdsAt_andAll, List.forall_mem_map]

/-- Two different columns are equal if they have the same text. -/
theorem Expr.holdsAt_columnsEqual {cells : Column → Cell} {a b : Column} (h : a ≠ b) :
  HoldsAt cells (columnsEqual a b) ↔ ∃ s, cells a = some s ∧ cells b = some s
  := by
  have hreads : ReadsOnly [a, b] (columnsEqual a b) := readsOnly_columnsEqual (by simp) (by simp)
  rw [holdsAt_iff fun c hc => get?_sample_of_mem cells (hreads c hc), columnsEqual,
    truthOn_equalOf _ rfl rfl (by simpa using h)]
  simp only [textOn, valueOn, Value.asText, get?_sample_of_mem cells (show a ∈ [a, b] by simp),
    get?_sample_of_mem cells (show b ∈ [a, b] by simp)]
  cases cells a <;> cases cells b <;> simp [sameIfKnown, eq_comm]

/-! ### New names -/

namespace Relation

/-- The names can be given to tables of the relation: each table gets one name at most, and the
name of a table that keeps it is not given to another one. -/
structure Renaming (r : Relation) (names : Aliases) : Prop where
  single : names.Single
  tables : ∀ x t, names.tables.get? x = some t → t ∈ r.tables
  free : ∀ x t, names.tables.get? x = some t → x ∈ r.tables → names.hasAlias x = true

theorem mem_tables_of_get? {r : Relation} {x u : Table} (h : r.aliases.tables.get? x = some u) :
  x ∈ r.tables
  := by
  rw [tables, mem_canonical]
  simp only [List.mem_append, List.mem_map]
  left; left; left; left
  use ⟨u, x⟩, Aliases.mem_toList_iff.2 h

namespace Renaming

variable {r : Relation} {names aliases : Aliases} {t u x : Table} (h : r.Renaming names)

include h

theorem get?_eq_none (ht : t ∈ r.tables) (hkeeps : names.hasAlias t = false) :
  names.tables.get? t = none
  := by
  cases hget : names.tables.get? t with
  | none => rfl
  | some u =>
    rw [h.free t u hget ht] at hkeeps
    cases hkeeps

/-- The tables can be told from their new names. -/
theorem baseColumn_nameColumn {c : Column} (hc : c.table ∈ r.tables) :
  names.baseColumn (names.nameColumn c) = c
  := by
  rw [Aliases.nameColumn_eq, Aliases.baseColumn, Aliases.isAlias, Aliases.tableOf,
    SortedMap.contains]
  cases halias : names.hasAlias c.table with
  | true =>
    rw [h.single.get?_nameOf halias]
    rfl
  | false =>
    rw [Aliases.nameOf_of_not_hasAlias halias, h.get?_eq_none hc halias]
    rfl

theorem apart (ht : t ∈ r.tables) (hu : u ∈ r.tables) (heq : names.nameOf t = names.nameOf u) :
  t = u
  := by
  have hcolumn : names.nameColumn ⟨t, ""⟩ = names.nameColumn ⟨u, ""⟩ := by
    rw [Aliases.nameColumn_eq, Aliases.nameColumn_eq]
    simp only [heq]
  have hbase := h.baseColumn_nameColumn (c := ⟨t, ""⟩) ht
  rw [hcolumn, h.baseColumn_nameColumn (c := ⟨u, ""⟩) hu] at hbase
  cases hbase
  rfl

theorem exists_compose :
  ∃ aliases, names.compose r.aliases = .ok aliases
  := by
  apply Aliases.exists_compose
  intro n t u hn hu
  apply h.free n t hn (mem_tables_of_get? hu)

/-- A new name stands for the table for which the old one stood. -/
theorem tableOf_nameOf (hcompose : names.compose r.aliases = .ok aliases) (ht : t ∈ r.tables) :
  aliases.tableOf (names.nameOf t) = r.aliases.tableOf t
  := by
  cases halias : names.hasAlias t with
  | true => apply h.single.tableOf_nameOf_of_compose hcompose halias
  | false =>
    have hget : aliases.tables.get? t = r.aliases.tables.get? t := by
      ext u
      simp [Aliases.get?_of_compose hcompose, h.get?_eq_none ht halias, halias]
    rw [Aliases.nameOf_of_not_hasAlias halias, Aliases.tableOf, Aliases.tableOf, hget]

/-- Every alias of the renamed relation is the name of a table of the relation. -/
theorem exists_nameOf_eq (hcompose : names.compose r.aliases = .ok aliases)
    (hx : aliases.tables.get? x = some u) :
  ∃ t ∈ r.tables, names.nameOf t = x
  := by
  rw [Aliases.get?_of_compose hcompose] at hx
  obtain ⟨t, ht, -⟩ | ⟨hget, hkeeps⟩ := hx
  · use t, h.tables x t ht, h.single.nameOf_eq ht
  · use x, mem_tables_of_get? hget, Aliases.nameOf_of_not_hasAlias hkeeps

end Renaming

/-- The names of a list can be given if the list has names for tables of the relation only, and
its names are not those of other tables of the relation. -/
theorem renaming_ofList {r : Relation} {as : List Alias} {names : Aliases}
    (h : Aliases.ofList as = .ok names) (htables : ∀ a ∈ as, a.table ∈ r.tables)
    (hfree : ∀ a ∈ as, a.name ∈ r.tables → ∃ b ∈ as, b.table = a.name) :
  r.Renaming names
  := by
  obtain ⟨hsingle, hget⟩ := Aliases.get?_of_ofList h
  constructor
  · apply hsingle
  · intro x t ht
    apply htables ⟨t, x⟩ ((hget x t).1 ht)
  · intro x t ht hx
    obtain ⟨⟨u, n⟩, hb, rfl⟩ := hfree ⟨t, x⟩ ((hget x t).1 ht) hx
    rw [hsingle.hasAlias_iff]
    use n, (hget n u).2 hb

end Relation

/-! ### Renamed joins -/

namespace Join

theorem mem_columns_rename {f : Column → Column} {j : Join} {c : Column} :
  c ∈ (j.rename f).columns ↔ ∃ d ∈ j.columns, f d = c
  := by
  simp only [columns, List.mem_flatMap, mem_pairs_rename, List.mem_cons, List.not_mem_nil, or_false]
  constructor
  · rintro ⟨_, ⟨p, hp, rfl⟩, hc⟩
    have hside : c = f p.1 ∨ c = f p.2 := by
      obtain heq | heq := orient_eq (f p.1, f p.2)
      · simpa [heq] using hc
      · simpa [heq, or_comm] using hc
    obtain rfl | rfl := hside
    · use p.1, ⟨p, hp, Or.inl rfl⟩
    · use p.2, ⟨p, hp, Or.inr rfl⟩
  · rintro ⟨d, ⟨p, hp, hd⟩, rfl⟩
    use orient (f p.1, f p.2), ⟨p, hp, rfl⟩
    obtain heq | heq := orient_eq (f p.1, f p.2)
    · obtain rfl | rfl := hd <;> simp [heq]
    · obtain rfl | rfl := hd <;> simp [heq]

theorem Relates.ne {j : Join} (h : j.Relates) {p : Column × Column} (hp : p ∈ j.pairs) :
  p.1.table ≠ p.2.table
  := Related.table_ne h hp

theorem mem_columns_of_mem_pairs {j : Join} {p : Column × Column} (hp : p ∈ j.pairs) :
  p.1 ∈ j.columns ∧ p.2 ∈ j.columns
  := by
  constructor <;> rw [columns, List.mem_flatMap] <;> use p, hp <;> simp

section

variable {f : Column → Column} {j : Join} {left right : Table}

/-- If tables are renamed, all the pairs are turned in the same way. -/
theorem tables_of_mem_pairs_rename (g : Table → Table)
    (hf : ∀ c ∈ j.columns, (f c).table = g c.table)
    (hpairs : ∀ p ∈ j.pairs, p.1.table = left ∧ p.2.table = right) :
  (∀ q ∈ (j.rename f).pairs, q.1.table = g left ∧ q.2.table = g right)
    ∨ ∀ q ∈ (j.rename f).pairs, q.1.table = g right ∧ q.2.table = g left
  := by
  have hsides : ∀ p ∈ j.pairs, (f p.1).table = g left ∧ (f p.2).table = g right := by
    intro p hp
    obtain ⟨hfirst, hsecond⟩ := mem_columns_of_mem_pairs hp
    rw [hf _ hfirst, hf _ hsecond, (hpairs p hp).1, (hpairs p hp).2]
    use rfl
  by_cases hle : Spelled.le (g left) (g right) = true
  · left
    intro q hq
    obtain ⟨p, hp, rfl⟩ := mem_pairs_rename.1 hq
    rw [orient, (hsides p hp).1, (hsides p hp).2, if_pos hle]
    apply hsides p hp
  · right
    intro q hq
    obtain ⟨p, hp, rfl⟩ := mem_pairs_rename.1 hq
    rw [orient, (hsides p hp).1, (hsides p hp).2, if_neg hle]
    apply (hsides p hp).symm

theorem Uniform.rename (g : Table → Table) (h : j.Uniform)
    (hf : ∀ c ∈ j.columns, (f c).table = g c.table) :
  (j.rename f).Uniform
  := by
  obtain ⟨left, right, hpairs⟩ := h
  obtain hsides | hsides := tables_of_mem_pairs_rename g hf hpairs
  · use g left, g right
  · use g right, g left

/-- Renaming tells two tables apart that were apart. -/
theorem Relates.rename (g : Table → Table) (h : j.Relates)
    (hf : ∀ c ∈ j.columns, (f c).table = g c.table)
    (hg : ∀ t ∈ j.tables, ∀ u ∈ j.tables, g t = g u → t = u) :
  (j.rename f).Relates
  := by
  have htables : ∀ c ∈ j.columns, c.table ∈ j.tables := fun c hc => h.uniform.mem_tables hc
  obtain ⟨left, right, hne, hpairs⟩ := h
  have hapart : g left ≠ g right := by
    intro heq
    obtain ⟨p, hp⟩ := List.exists_mem_of_ne_nil _ j.nonempty
    obtain ⟨hfirst, hsecond⟩ := mem_columns_of_mem_pairs hp
    apply hne
    apply hg _ _ _ _ heq
    · rw [← (hpairs p hp).1]
      apply htables _ hfirst
    · rw [← (hpairs p hp).2]
      apply htables _ hsecond
  obtain hsides | hsides := tables_of_mem_pairs_rename g hf hpairs
  · use g left, g right, hapart
  · use g right, g left, Ne.symm hapart

end

theorem holdsAt_toExpr {j : Join} (h : j.Relates) {cells : Column → Cell} :
  HoldsAt cells j.toExpr
    ↔ ∀ p ∈ j.pairs, ∃ s, cells p.1 = some s ∧ cells p.2 = some s
  := by
  rw [toExpr, holdsAt_andAll, List.forall_mem_map]
  apply forall₂_congr
  intro p hp
  apply holdsAt_columnsEqual
  intro heq
  apply h.ne hp (congrArg Column.table heq)

/-- On cells that are renamed as well, a renamed join is true exactly when the join is. -/
theorem holdsAt_rename {f : Column → Column} {j : Join} (h : j.Relates)
    (hf : (j.rename f).Relates) {cells cells' : Column → Cell}
    (hcells : ∀ c ∈ j.columns, cells' (f c) = cells c) :
  HoldsAt cells' (j.rename f).toExpr ↔ HoldsAt cells j.toExpr
  := by
  have hcell : ∀ p ∈ j.pairs, cells' (f p.1) = cells p.1 ∧ cells' (f p.2) = cells p.2 := by
    intro p hp
    obtain ⟨hfirst, hsecond⟩ := mem_columns_of_mem_pairs hp
    use hcells _ hfirst, hcells _ hsecond
  rw [holdsAt_toExpr h, holdsAt_toExpr hf]
  simp only [mem_pairs_rename, forall_exists_index, and_imp, forall_apply_eq_imp_iff₂]
  apply forall₂_congr
  intro p hp
  rw [← (hcell p hp).1, ← (hcell p hp).2]
  obtain heq | heq := orient_eq (f p.1, f p.2)
  · rw [heq]
  · rw [heq]
    simp only [and_comm]

end Join

/-! ### Renamed relations -/

namespace Relation

/-- What is known of a relation whose tables are read under other names. -/
structure RenamedBy (r s : Relation) (name : Table → Table) : Prop where
  isEmpty : s.isEmpty = r.isEmpty
  database : s.database = r.database
  unique : s.unique = r.unique
  tables : ∀ x, x ∈ s.tables ↔ ∃ t ∈ r.tables, name t = x
  apart : ∀ t ∈ r.tables, ∀ u ∈ r.tables, name t = name u → t = u
  tableOf : ∀ t ∈ r.tables, s.aliases.tableOf (name t) = r.aliases.tableOf t
  columns : ∀ c, c ∈ s.columnList ↔ ∃ d ∈ r.columnList, d.under name = c
  projections : s.projections = canonical (r.projections.map (Column.under name))
  sound : s.Sound
  holds : ∀ db pick, s.Holds db pick ↔ r.Holds db (pick.under name)

/-- A database that fits a relation fits one that reads the same tables under other names. -/
theorem Fits.of_names {r s : Relation} {name : Table → Table} {db : Database} (hfits : r.Fits db)
    (hr : r.Sound) (htables : ∀ x ∈ s.tables, ∃ t ∈ r.tables, name t = x)
    (htableOf : ∀ t ∈ r.tables, s.aliases.tableOf (name t) = r.aliases.tableOf t)
    (hcolumns : ∀ c ∈ s.columnList, ∃ d ∈ r.columnList, d.under name = c) :
  s.Fits db
  := by
  constructor
  · intro x hx
    obtain ⟨t, ht, rfl⟩ := htables x hx
    rw [htableOf t ht]
    apply hfits.tables t ht
  · intro c hc
    obtain ⟨d, hd, rfl⟩ := hcolumns c hc
    rw [Column.under, htableOf d.table (hr.mem_tables hd)]
    apply hfits.columns d hd

/-- The relation with the new names and the given aliases. -/
def renamed (r : Relation) (names aliases : Aliases) : Relation :=
  { r with
    aliases
    condition := r.condition.rename names.nameColumn
    joins := canonical (r.joins.map (Join.rename names.nameColumn))
    projections := canonical (r.projections.map names.nameColumn)
    order := r.order.map fun o => (names.nameColumn o.1, o.2) }

section

variable {r s : Relation} {names aliases : Aliases}

theorem renameTables_eq_ok (he : r.isEmpty = false) :
  r.renameTables names = .ok s
    ↔ ∃ aliases, names.compose r.aliases = .ok aliases ∧ s = r.renamed names aliases
  := by
  rw [renameTables, he, if_neg (by simp)]
  cases names.compose r.aliases with
  | ok aliases => simp [eq_comm, renamed]
  | error e => simp

theorem isEmpty_of_renameTables (h : r.renameTables names = .ok s) (hs : s.isEmpty = false) :
  r.isEmpty = false
  := by
  by_contra he
  rw [Bool.not_eq_false] at he
  rw [renameTables, if_pos he] at h
  cases h
  cases hs

theorem nameColumn_eq_under (names : Aliases) :
  names.nameColumn = Column.under names.nameOf
  := funext names.nameColumn_eq

/-- A renamed relation mentions no columns but those of the relation under their new names. -/
theorem exists_of_mem_columnList_renamed {c : Column}
    (hc : c ∈ (r.renamed names aliases).columnList) :
  ∃ d ∈ r.columnList, names.nameColumn d = c
  := by
  simp only [columnList, renamed, List.mem_append, List.mem_flatMap, mem_canonical,
    List.mem_map, Option.mem_toList, Option.map_eq_some_iff] at hc ⊢
  obtain ((⟨_, ⟨j, hj, rfl⟩, hc⟩ | hc) | ⟨d, hd, rfl⟩) | ⟨_, ⟨o, ho, rfl⟩, rfl⟩ := hc
  · obtain ⟨d, hd, rfl⟩ := Join.mem_columns_rename.1 hc
    use d, .inl (.inl (.inl ⟨j, hj, hd⟩))
  · obtain ⟨d, hd, rfl⟩ := List.mem_map.1 (readsOnly_rename names.nameColumn r.condition c hc)
    use d, .inl (.inl (.inr hd))
  · use d, .inl (.inr hd)
  · use o.1, .inr ⟨o, ho, rfl⟩

variable (hr : r.Sound) (hn : r.condition.Normal) (h : r.Renaming names)

include hr h

theorem relates_rename {j : Join} (hj : j ∈ r.joins) :
  (j.rename names.nameColumn).Relates
  := by
  apply (hr.joins j hj).rename names.nameOf
  · intro c _
    rw [names.nameColumn_eq]
  · intro t ht u hu heq
    obtain ⟨c, hc, rfl⟩ := j.exists_column_of_mem_tables ht
    obtain ⟨d, hd, rfl⟩ := j.exists_column_of_mem_tables hu
    apply h.apart _ _ heq
    · apply hr.mem_tables (mem_columnList_of_mem_join hj hc)
    · apply hr.mem_tables (mem_columnList_of_mem_join hj hd)

theorem baseColumn_nameColumn {c : Column} (hc : c ∈ r.condition.columnList) :
  names.baseColumn (names.nameColumn c) = c
  := h.baseColumn_nameColumn (hr.mem_tables (r.readsOnly_condition c hc))

theorem sound_renamed (aliases : Aliases) :
  (r.renamed names aliases).Sound
  := by
  constructor
  · apply hr.limit
  · apply hr.limitInverse
  · apply isCondition_rename _ hr.isCondition
  · intro j hj
    rw [renamed, mem_canonical, List.mem_map] at hj
    obtain ⟨j, hj, rfl⟩ := hj
    apply relates_rename hr h hj

include hn

theorem renamed_condition :
  Renamed names.nameColumn r.condition (r.condition.rename names.nameColumn)
  := by
  apply hn.renamed
  intro c hc
  apply baseColumn_nameColumn hr h hc

theorem mem_columnList_renamed (aliases : Aliases) {c : Column} :
  c ∈ (r.renamed names aliases).columnList ↔ ∃ d ∈ r.columnList, names.nameColumn d = c
  := by
  have hrenamed := renamed_condition hr hn h
  constructor
  · apply exists_of_mem_columnList_renamed
  · simp only [columnList, renamed, List.mem_append, List.mem_flatMap, mem_canonical,
      List.mem_map, Option.mem_toList, Option.map_eq_some_iff]
    rintro ⟨d, ((⟨j, hj, hd⟩ | hd) | hd) | ⟨o, ho, rfl⟩, rfl⟩
    · left; left; left
      use j.rename names.nameColumn, ⟨j, hj, rfl⟩
      apply Join.mem_columns_rename.2 ⟨d, hd, rfl⟩
    · left; left; right
      apply hrenamed.mem_columnList_iff.2 ⟨d, hd, rfl⟩
    · left; right
      use d
    · right
      use (names.nameColumn o.1, o.2), ⟨o, ho, rfl⟩

variable (hcompose : names.compose r.aliases = .ok aliases)

include hcompose

/-- The tables of a renamed relation are the tables under their new names. -/
theorem mem_tables_renamed {x : Table} :
  x ∈ (r.renamed names aliases).tables ↔ ∃ t ∈ r.tables, names.nameOf t = x
  := by
  have hs := sound_renamed hr h aliases
  constructor
  · intro hx
    obtain ⟨u, hu⟩ | ⟨c, hc, rfl⟩ := hs.mem_tables_iff.1 hx
    · apply h.exists_nameOf_eq hcompose hu
    · obtain ⟨d, hd, rfl⟩ := (mem_columnList_renamed hr hn h aliases).1 hc
      use d.table, hr.mem_tables hd
      rw [names.nameColumn_eq]
  · rintro ⟨t, ht, rfl⟩
    cases halias : names.hasAlias t with
    | true =>
      apply mem_tables_of_get? (u := r.aliases.tableOf t)
      apply (Aliases.get?_of_compose hcompose).2 (.inl ⟨t, h.single.get?_nameOf halias, rfl⟩)
    | false =>
      -- a table that keeps its name is still mentioned
      obtain ⟨u, hu⟩ | ⟨d, hd, rfl⟩ := hr.mem_tables_iff.1 ht
      · rw [Aliases.nameOf_of_not_hasAlias halias]
        apply mem_tables_of_get? (u := u)
        apply (Aliases.get?_of_compose hcompose).2 (.inr ⟨hu, halias⟩)
      · have hc := hs.mem_tables ((mem_columnList_renamed hr hn h aliases).2 ⟨d, hd, rfl⟩)
        rwa [names.nameColumn_eq] at hc

theorem picks_renamed_iff (db : Database) (pick : Pick) :
  db.Picks aliases (r.renamed names aliases).tables pick
    ↔ db.Picks r.aliases r.tables (pick.under names.nameOf)
  := by
  simp only [Database.Picks, mem_tables_renamed hr hn h hcompose, forall_exists_index, and_imp,
    forall_apply_eq_imp_iff₂]
  apply forall₂_congr
  intro t ht
  rw [h.tableOf_nameOf hcompose ht]
  rfl

/-- A pick is in the renamed relation if its records under the new names are in the relation. -/
theorem holds_renamed_iff (db : Database) (pick : Pick) :
  (r.renamed names aliases).Holds db pick ↔ r.Holds db (pick.under names.nameOf)
  := by
  have hcells : ∀ c, pick.cell (names.nameColumn c) = (pick.under names.nameOf).cell c := by
    intro c
    rw [names.nameColumn_eq]
    rfl
  have hjoins : (∀ j ∈ (r.renamed names aliases).joins, HoldsAt pick.cell j.toExpr)
      ↔ ∀ j ∈ r.joins, HoldsAt (pick.under names.nameOf).cell j.toExpr := by
    simp only [renamed, mem_canonical, List.forall_mem_map]
    apply forall₂_congr
    intro j hj
    apply Join.holdsAt_rename (hr.joins j hj) (relates_rename hr h hj)
    intro c _
    apply hcells c
  have hcondition : HoldsAt pick.cell (r.condition.rename names.nameColumn)
      ↔ HoldsAt (pick.under names.nameOf).cell r.condition := by
    apply hn.holdsAt_rename
    · intro c hc
      apply baseColumn_nameColumn hr h hc
    · intro c _
      apply hcells c
  constructor
  · rintro ⟨hp, hj, hc⟩
    use (picks_renamed_iff hr hn h hcompose db pick).1 hp, hjoins.1 hj, hcondition.1 hc
  · rintro ⟨hp, hj, hc⟩
    use (picks_renamed_iff hr hn h hcompose db pick).2 hp, hjoins.2 hj, hcondition.2 hc

omit hcompose

/-- The tables of a relation whose condition is in normal form can be renamed. -/
theorem renamedBy_renameTables (he : r.isEmpty = false) (hs : r.renameTables names = .ok s) :
  r.RenamedBy s names.nameOf
  := by
  obtain ⟨aliases, hcompose, rfl⟩ := (renameTables_eq_ok he).1 hs
  constructor
  · -- renaming keeps the form of the condition
    have hform : (r.condition.rename names.nameColumn).form = r.condition.form := by
      apply (hn.recovers _).2
      · apply names.baseColumn
      · intro c hc
        apply baseColumn_nameColumn hr h hc
    rw [Bool.eq_iff_iff, isEmpty_iff, isEmpty_iff, ← form_eq_never, ← form_eq_never]
    rw [← hform]
    rfl
  · rfl
  · rfl
  · intro x
    apply mem_tables_renamed hr hn h hcompose
  · intro t ht u hu heq
    apply h.apart ht hu heq
  · intro t ht
    apply h.tableOf_nameOf hcompose ht
  · intro c
    rw [← nameColumn_eq_under]
    apply mem_columnList_renamed hr hn h
  · rw [← nameColumn_eq_under]
    rfl
  · apply sound_renamed hr h
  · intro db pick
    apply holds_renamed_iff hr hn h hcompose

end

namespace RenamedBy

variable {r s : Relation} {name name' : Table → Table}

theorem under_congr (hr : r.Sound) (hname : ∀ t ∈ r.tables, name t = name' t) {c : Column}
    (hc : c ∈ r.columnList) :
  c.under name = c.under name'
  := by
  rw [Column.under, Column.under, hname c.table (hr.mem_tables hc)]

/-- Only the names of the tables of the relation matter. -/
theorem congr (h : r.RenamedBy s name) (hr : r.Sound)
    (hname : ∀ t ∈ r.tables, name t = name' t) :
  r.RenamedBy s name'
  := by
  constructor
  · apply h.isEmpty
  · apply h.database
  · apply h.unique
  · intro x
    rw [h.tables]
    apply exists_congr
    intro t
    rw [and_congr_right_iff]
    intro ht
    rw [hname t ht]
  · intro t ht u hu
    rw [← hname t ht, ← hname u hu]
    apply h.apart t ht u hu
  · intro t ht
    rw [← hname t ht]
    apply h.tableOf t ht
  · intro c
    rw [h.columns]
    apply exists_congr
    intro d
    rw [and_congr_right_iff]
    intro hd
    rw [under_congr hr hname hd]
  · rw [h.projections]
    congr 1
    apply List.map_congr_left
    intro c hc
    apply under_congr hr hname (mem_columnList_of_mem_projections hc)
  · apply h.sound
  · intro db pick
    have hpick : ∀ t ∈ r.tables, pick.under name t = pick.under name' t := by
      intro t ht
      rw [Pick.under, Pick.under, hname t ht]
    rw [h.holds]
    constructor
    · apply Holds.congr hr hpick
    · apply Holds.congr hr fun t ht => (hpick t ht).symm

/-- The database fits the renamed relation as well. -/
theorem fits (h : r.RenamedBy s name) (hr : r.Sound) {db : Database} (hfits : r.Fits db) :
  s.Fits db
  := hfits.of_names hr (fun x => (h.tables x).1) h.tableOf fun c => (h.columns c).1

end RenamedBy

end Relation

end RelGraph.Sql
