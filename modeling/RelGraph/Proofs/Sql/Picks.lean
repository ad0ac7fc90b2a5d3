import RelGraph.Proofs.Order.Canonical
import RelGraph.Proofs.Sql.Aliases
import RelGraph.Proofs.Sql.Join
import RelGraph.Proofs.Sql.Relation

/-!
# Relations and picks of records

A combination of rows picks a record for each table that is read.  Seen this way, the meaning of a
relation does not depend on the order in which its tables are read: a pick is in the relation if
its records are in the tables and the joins and the condition are true on their cells.  The answer
to a query has the rows of all these picks.
-/

namespace RelGraph.Sql

/-- The cells of a row of a table with the names of their columns. -/
abbrev Record := List (String × Cell)

/-- A record for each table. -/
abbrev Pick := Table → Record

/-- The cell of a column. -/
def Pick.cell (pick : Pick) (c : Column) : Cell := (List.lookup c.name (pick c.table)).join

/-- The column of the table under another name. -/
def Column.under (name : Table → Table) (c : Column) : Column := ⟨name c.table, c.name⟩

/-- What a pick for the tables under other names picks for the tables. -/
def Pick.under (pick : Pick) (name : Table → Table) : Pick := fun t => pick (name t)

/-! ### Conditions on cells -/

namespace Expr

/-- The condition is true on the given cells. -/
def HoldsAt (cells : Column → Cell) (e : Expr) : Prop :=
  e.truthOn (Row.sample e.columnList cells) = some true

section

variable {cells cells' : Column → Cell} {e : Expr} {es : List Expr}

theorem holdsAt_iff {row : Row} (h : ∀ c ∈ e.columnList, row.get? c = cells c) :
  HoldsAt cells e ↔ e.truthOn row = some true
  := by
  rw [HoldsAt, truthOn_congr]
  intro c hc
  rw [get?_sample_of_mem cells hc, h c hc]

theorem holdsAt_congr (h : ∀ c ∈ e.columnList, cells c = cells' c) :
  HoldsAt cells e ↔ HoldsAt cells' e
  := by
  apply holdsAt_iff
  intro c hc
  rw [get?_sample_of_mem cells' hc, h c hc]

theorem holdsAt_always :
  HoldsAt cells .always
  := rfl

theorem not_holdsAt_never :
  ¬ HoldsAt cells .never
  := by
  simp [HoldsAt]

/-- The operands of a condition can be looked at on one and the same row. -/
theorem holdsAt_iff_of_mem (he : e ∈ es) :
  HoldsAt cells e ↔ e.truthOn (Row.sample (es.flatMap columnList) cells) = some true
  := by
  apply holdsAt_iff
  intro c hc
  apply get?_sample_of_mem
  rw [List.mem_flatMap]
  use e

theorem holdsAt_andAll :
  HoldsAt cells (andAll es) ↔ ∀ e ∈ es, HoldsAt cells e
  := by
  have hreads : ReadsOnly (es.flatMap columnList) (andAll es) := by
    apply readsOnly_andAll
    intro e he c hc
    rw [List.mem_flatMap]
    use e
  rw [holdsAt_iff fun c hc => get?_sample_of_mem cells (hreads c hc), truthOn_andAll_eq_true]
  apply forall₂_congr
  intro e he
  rw [holdsAt_iff_of_mem he]

theorem holdsAt_orAll :
  HoldsAt cells (orAll es) ↔ ∃ e ∈ es, HoldsAt cells e
  := by
  have hreads : ReadsOnly (es.flatMap columnList) (orAll es) := by
    apply readsOnly_orAll
    intro e he c hc
    rw [List.mem_flatMap]
    use e
  rw [holdsAt_iff fun c hc => get?_sample_of_mem cells (hreads c hc), truthOn_orAll_eq_true]
  apply exists_congr
  intro e
  rw [and_congr_right_iff]
  intro he
  rw [holdsAt_iff_of_mem he]

end

end Expr

/-! ### Combinations of records -/

/-- The cells of a record of a table that is read under a name. -/
def Record.tagged (record : Record) (t : Table) : Env :=
  record.map fun p => (Column.mk t p.1, p.2)

/-- The records of a table. -/
def TableData.records (data : TableData) : List Record :=
  data.rows.map fun cells => (data.columns.zip cells).reverse

/-- The combination of the records of some tables. -/
def Pick.env (pick : Pick) (ts : List Table) : Env :=
  ts.reverse.flatMap fun t => (pick t).tagged t

theorem Pick.env_cons (pick : Pick) (t : Table) (ts : List Table) :
  pick.env (t :: ts) = pick.env ts ++ (pick t).tagged t
  := by
  simp [env]

theorem Record.lookup_tagged (record : Record) (t : Table) (c : Column) :
  List.lookup c (record.tagged t) = if c.table = t then List.lookup c.name record else none
  := by
  rw [tagged]
  induction record with
  | nil => simp
  | cons p record ih =>
    rw [List.map_cons, List.lookup_cons, List.lookup_cons, ih]
    have heq : (c == Column.mk t p.1) = (decide (c.table = t) && (c.name == p.1)) := by
      obtain ⟨table, name⟩ := c
      rw [Bool.eq_iff_iff]
      simp
    by_cases ht : c.table = t
    · simp [heq, ht]
    · simp [heq, ht]

theorem Pick.lookup_env (pick : Pick) (ts : List Table) (c : Column) :
  List.lookup c (pick.env ts)
    = if c.table ∈ ts then List.lookup c.name (pick c.table) else none
  := by
  induction ts with
  | nil => rfl
  | cons t ts ih =>
    rw [env_cons, List.lookup_append, ih, Record.lookup_tagged]
    by_cases ht : c.table = t
    · subst ht
      by_cases hts : c.table ∈ ts <;> simp [hts]
    · simp [ht]

/-- The combination has the cells of the pick. -/
theorem Pick.get?_env {pick : Pick} {ts : List Table} {c : Column} (h : c.table ∈ ts) :
  Row.get? ⟨pick.env ts⟩ c = pick.cell c
  := by
  rw [Row.get?, lookup_env, if_pos h]
  rfl

namespace Database

theorem envOf_eq_tagged (t : Table) (columns : List String) (cells : List Cell) :
  envOf t columns cells = Record.tagged (columns.zip cells).reverse t
  := by
  rw [envOf, Record.tagged, List.map_reverse]

/-- The records of a table; none if there is no such table. -/
def recordsAt (db : Database) (t : Table) : List Record :=
  ((db.tables.get? t).map TableData.records).getD []

theorem envsOf_eq {db : Database} {aliases : Aliases} {t : Table}
    (h : (db.tables.get? (aliases.tableOf t)).isSome) :
  db.envsOf aliases t
    = .ok ((db.recordsAt (aliases.tableOf t)).map fun record => record.tagged t)
  := by
  obtain ⟨data, hdata⟩ := Option.isSome_iff_exists.1 h
  simp only [envsOf, hdata, recordsAt, Option.map_some, Option.getD_some, TableData.records,
    List.map_map]
  congr 1
  apply List.map_congr_left
  intro cells _
  apply envOf_eq_tagged

/-- The pick has records of the tables that are read. -/
def Picks (db : Database) (aliases : Aliases) (ts : List Table) (pick : Pick) : Prop :=
  ∀ t ∈ ts, pick t ∈ db.recordsAt (aliases.tableOf t)

/-- The combinations are those of all the picks. -/
theorem combine_eq {db : Database} {aliases : Aliases} {ts : List Table} (hts : ts.Nodup)
    (h : ∀ t ∈ ts, (db.tables.get? (aliases.tableOf t)).isSome) (envs : List Env) :
  ∃ all, db.combine aliases envs ts = .ok all
    ∧ ∀ env, env ∈ all
      ↔ ∃ start ∈ envs, ∃ pick, db.Picks aliases ts pick ∧ env = pick.env ts ++ start
  := by
  induction ts generalizing envs with
  | nil =>
    use envs, rfl
    intro env
    constructor
    · intro henv
      use env, henv, fun _ => []
      simp [Picks, Pick.env]
    · rintro ⟨start, hstart, pick, -, rfl⟩
      simpa [Pick.env] using hstart
  | cons t ts ih =>
    rw [List.nodup_cons] at hts
    rw [List.forall_mem_cons] at h
    simp only [combine, envsOf_eq h.1]
    obtain ⟨all, hall, hmem⟩ := ih hts.2 h.2 (envs.flatMap fun env =>
      ((db.recordsAt (aliases.tableOf t)).map fun record => record.tagged t).map (· ++ env))
    use all, hall
    intro env
    rw [hmem]
    simp only [List.mem_flatMap, List.mem_map, exists_exists_and_eq_and]
    constructor
    · rintro ⟨_, ⟨start, hstart, record, hrecord, rfl⟩, pick, hpick, rfl⟩
      -- the table is not among the other ones, so that its record can be changed
      use start, hstart, Function.update pick t record
      constructor
      · intro u hu
        by_cases hut : u = t
        · subst hut
          simpa using hrecord
        · rw [Function.update_of_ne hut]
          apply hpick u (by simpa [hut] using hu)
      · have htail : Pick.env (Function.update pick t record) ts = pick.env ts := by
          rw [Pick.env, Pick.env]
          apply List.flatMap_congr
          intro u hu
          rw [Function.update_of_ne]
          rintro rfl
          apply hts.1 (by simpa using hu)
        rw [Pick.env_cons, htail, Function.update_self, List.append_assoc]
    · rintro ⟨start, hstart, pick, hpick, rfl⟩
      use (pick t).tagged t ++ start
      constructor
      · use start, hstart, pick t, hpick t (by simp)
      · use pick
        constructor
        · intro u hu
          apply hpick u (by simp [hu])
        · rw [Pick.env_cons, List.append_assoc]

/-- Every row has one cell for each column of its table. -/
def Rectangular (db : Database) : Prop :=
  ∀ t data, db.tables.get? t = some data → ∀ cells ∈ data.rows, cells.length = data.columns.length

theorem isSome_lookup_of_mem_recordsAt {db : Database} (hdb : db.Rectangular) {t : Table}
    {data : TableData} (hdata : db.tables.get? t = some data) {name : String}
    (hname : name ∈ data.columns) {record : Record} (h : record ∈ db.recordsAt t) :
  (List.lookup name record).isSome
  := by
  rw [recordsAt, hdata] at h
  obtain ⟨cells, hcells, rfl⟩ := List.mem_map.1 h
  have hfst : name ∈ (data.columns.zip cells).map Prod.fst := by
    rw [List.map_fst_zip (Nat.le_of_eq (hdb t data hdata cells hcells).symm)]
    apply hname
  obtain ⟨p, hp, rfl⟩ := List.mem_map.1 hfst
  rw [List.lookup_isSome_iff]
  use p
  simpa using hp

end Database

/-! ### Joins -/

namespace Join

/-- The pairs all have the same table on the left, and the same one on the right. -/
def Uniform (j : Join) : Prop :=
  ∃ left right, ∀ p ∈ j.pairs, p.1.table = left ∧ p.2.table = right

/-- The pairs all relate the same two tables. -/
def Relates (j : Join) : Prop :=
  ∃ left right, left ≠ right ∧ ∀ p ∈ j.pairs, p.1.table = left ∧ p.2.table = right

theorem Relates.uniform {j : Join} (h : j.Relates) :
  j.Uniform
  := by
  obtain ⟨left, right, -, hpairs⟩ := h
  use left, right

theorem relates_of_ofPairs {pairs : List (Column × Column)} {j : Join}
    (h : ofPairs pairs = .ok j) :
  j.Relates
  := related_pairs_of_ofPairs h

theorem Uniform.mem_tables {j : Join} (h : j.Uniform) {c : Column} (hc : c ∈ j.columns) :
  c.table ∈ j.tables
  := by
  obtain ⟨left, right, hpairs⟩ := h
  obtain ⟨p, hp, hc⟩ := List.mem_flatMap.1 hc
  have htables : j.tables = [left, right] := by
    unfold tables
    split
    · rename_i heq
      exact absurd heq j.nonempty
    · rename_i q ps heq
      have hq := hpairs q (by simp [heq])
      rw [hq.1, hq.2]
  rw [htables]
  simp only [List.mem_cons, List.not_mem_nil, or_false] at hc ⊢
  obtain rfl | rfl := hc
  · left
    apply (hpairs p hp).1
  · right
    apply (hpairs p hp).2

theorem exists_column_of_mem_tables (j : Join) {t : Table} (ht : t ∈ j.tables) :
  ∃ c ∈ j.columns, c.table = t
  := by
  unfold tables at ht
  split at ht
  · cases ht
  · rename_i p ps heq
    simp only [List.mem_cons, List.not_mem_nil, or_false] at ht
    obtain rfl | rfl := ht
    · use p.1
      simp [columns, heq]
    · use p.2
      simp [columns, heq]

theorem isCondition_toExpr (j : Join) :
  j.toExpr.isCondition = true
  := by
  apply Expr.isCondition_andAll
  rw [List.forall_mem_map]
  intro p _
  apply Expr.isCondition_columnsEqual

theorem readsOnly_toExpr (j : Join) :
  Expr.ReadsOnly j.columns j.toExpr
  := by
  apply Expr.readsOnly_andAll
  rw [List.forall_mem_map]
  intro p hp
  apply Expr.readsOnly_columnsEqual
  · rw [columns, List.mem_flatMap]
    use p, hp
    simp
  · rw [columns, List.mem_flatMap]
    use p, hp
    simp

end Join

/-! ### Answers -/

namespace Relation

open Expr Database

/-- The columns that a relation mentions. -/
def columnList (r : Relation) : List Column :=
  r.joins.flatMap Join.columns ++ r.condition.columnList ++ r.projections
    ++ r.order.toList.map (·.1)

/-- The relation can be queried: all rows are read, and the condition has a truth value. -/
structure Sound (r : Relation) : Prop where
  limit : r.limit = none
  limitInverse : r.limitInverse = none
  isCondition : r.condition.isCondition = true
  joins : ∀ j ∈ r.joins, j.Relates

/-- The database has the tables and the columns that a relation mentions. -/
structure Fits (r : Relation) (db : Database) : Prop where
  tables : ∀ t ∈ r.tables, (db.tables.get? (r.aliases.tableOf t)).isSome
  columns : ∀ c ∈ r.columnList, ∃ data,
    db.tables.get? (r.aliases.tableOf c.table) = some data ∧ c.name ∈ data.columns

/-- The pick is in the relation. -/
structure Holds (r : Relation) (db : Database) (pick : Pick) : Prop where
  picks : db.Picks r.aliases r.tables pick
  joins : ∀ j ∈ r.joins, HoldsAt pick.cell j.toExpr
  condition : HoldsAt pick.cell r.condition

section

variable {r : Relation} {db : Database}

/-- A table is read if its name is an alias or one of its columns is mentioned. -/
theorem mem_tables_iff (hjoins : ∀ j ∈ r.joins, j.Uniform) {t : Table} :
  t ∈ r.tables ↔ (∃ u, r.aliases.tables.get? t = some u) ∨ ∃ c ∈ r.columnList, c.table = t
  := by
  rw [Relation.tables, mem_canonical]
  simp only [columnList, List.mem_append, List.mem_flatMap, List.mem_map]
  constructor
  · rintro ((((⟨⟨u, t⟩, ha, rfl⟩ | ⟨j, hj, ht⟩) | ⟨c, hc, rfl⟩) | ⟨c, hc, rfl⟩) | ⟨o, ho, rfl⟩)
    · left
      use u, Aliases.mem_toList_iff.1 ha
    · right
      obtain ⟨c, hc, rfl⟩ := j.exists_column_of_mem_tables ht
      use c, Or.inl (Or.inl (Or.inl ⟨j, hj, hc⟩))
    · right
      use c, Or.inl (Or.inl (Or.inr hc))
    · right
      use c, Or.inl (Or.inr hc)
    · right
      use o.1, Or.inr ⟨o, ho, rfl⟩
  · rintro (⟨u, hu⟩ | ⟨c, ((⟨j, hj, hc⟩ | hc) | hc) | ⟨o, ho, rfl⟩, rfl⟩)
    · left; left; left; left
      use ⟨u, t⟩, Aliases.mem_toList_iff.2 hu
    · left; left; left; right
      use j, hj, (hjoins j hj).mem_tables hc
    · left; left; right
      use c
    · left; right
      use c
    · right
      use o

theorem Sound.mem_tables_iff (hr : r.Sound) {t : Table} :
  t ∈ r.tables ↔ (∃ u, r.aliases.tables.get? t = some u) ∨ ∃ c ∈ r.columnList, c.table = t
  := Relation.mem_tables_iff fun j hj => (hr.joins j hj).uniform

theorem Sound.mem_tables (hr : r.Sound) {c : Column} (hc : c ∈ r.columnList) :
  c.table ∈ r.tables
  := hr.mem_tables_iff.2 (Or.inr ⟨c, hc, rfl⟩)

/-- Whether the database fits a relation can be decided. -/
theorem fits_of_any
    (htables : ∀ t ∈ r.tables, (db.tables.get? (r.aliases.tableOf t)).isSome)
    (hcolumns : ∀ c ∈ r.columnList,
      ((db.tables.get? (r.aliases.tableOf c.table)).any fun data => c.name ∈ data.columns) = true) :
  r.Fits db
  := by
  use htables
  intro c hc
  obtain ⟨data, hdata, hname⟩ := (Option.any_eq_true _ _).1 (hcolumns c hc)
  use data, hdata, of_decide_eq_true hname

theorem Fits.has (hr : r.Sound) (hfits : r.Fits db) (hdb : db.Rectangular) {pick : Pick}
    (hpick : db.Picks r.aliases r.tables pick) :
  Env.Has (pick.env r.tables) r.columnList
  := by
  intro c hc
  have ht := hr.mem_tables hc
  obtain ⟨data, hdata, hname⟩ := hfits.columns c hc
  rw [Pick.lookup_env, if_pos ht]
  apply isSome_lookup_of_mem_recordsAt hdb hdata hname (hpick c.table ht)

/-- A condition on columns of the relation is true on a combination exactly when it is on the
pick. -/
theorem isTrueOn_env_iff (hr : r.Sound) (hfits : r.Fits db) (hdb : db.Rectangular) {pick : Pick}
    (hpick : db.Picks r.aliases r.tables pick) {e : Expr} (hc : e.isCondition = true)
    (he : ReadsOnly r.columnList e) :
  e.isTrueOn (pick.env r.tables) = true ↔ HoldsAt pick.cell e
  := by
  rw [isTrueOn_of_readsOnly hc he (hfits.has hr hdb hpick), holdsAt_iff]
  intro c hcol
  apply Pick.get?_env (hr.mem_tables (he c hcol))

theorem readsOnly_condition (r : Relation) :
  ReadsOnly r.columnList r.condition
  := by
  intro c hc
  simp only [columnList, List.mem_append]
  left; left; right
  apply hc

theorem mem_columnList_of_mem_join {j : Join} (hj : j ∈ r.joins) {c : Column}
    (hc : c ∈ j.columns) :
  c ∈ r.columnList
  := by
  simp only [columnList, List.mem_append]
  left; left; left
  apply List.mem_flatMap.2 ⟨j, hj, hc⟩

theorem mem_columnList_of_mem_projections {c : Column} (hc : c ∈ r.projections) :
  c ∈ r.columnList
  := by
  simp only [columnList, List.mem_append]
  left; right
  apply hc

theorem readsOnly_join {j : Join} (hj : j ∈ r.joins) :
  ReadsOnly r.columnList j.toExpr
  := by
  intro c hc
  apply mem_columnList_of_mem_join hj (j.readsOnly_toExpr c hc)

theorem nodup_tables (r : Relation) :
  r.tables.Nodup
  := nodup_of_increasing (increasing_canonical _)

/-- Whether a pick is in a relation depends on its records for the tables of the relation. -/
theorem Holds.congr (hr : r.Sound) {pick pick' : Pick}
    (h : ∀ t ∈ r.tables, pick t = pick' t) (hpick : r.Holds db pick) :
  r.Holds db pick'
  := by
  have hcells : ∀ c ∈ r.columnList, pick.cell c = pick'.cell c := by
    intro c hc
    rw [Pick.cell, Pick.cell, h c.table (hr.mem_tables hc)]
  constructor
  · intro t ht
    rw [← h t ht]
    apply hpick.picks t ht
  · intro j hj
    rw [← Expr.holdsAt_congr fun c hc => hcells c (readsOnly_join hj c hc)]
    apply hpick.joins j hj
  · rw [← Expr.holdsAt_congr fun c hc => hcells c (r.readsOnly_condition c hc)]
    apply hpick.condition

theorem Holds.isEmpty_eq_false {pick : Pick} (h : r.Holds db pick) :
  r.isEmpty = false
  := by
  rw [isEmpty_eq_false_iff]
  intro hnever
  apply @not_holdsAt_never pick.cell
  rw [← hnever]
  apply h.condition

/-- The combinations that are read are those of the picks in the relation. -/
theorem exists_readEnvs (hr : r.Sound) (hfits : r.Fits db) (hdb : db.Rectangular) :
  ∃ envs, db.readEnvs r = .ok envs
    ∧ ∀ env, env ∈ envs ↔ ∃ pick, r.Holds db pick ∧ env = pick.env r.tables
  := by
  obtain ⟨all, hall, hmem⟩ := combine_eq r.nodup_tables hfits.tables [[]]
  simp only [List.mem_singleton, exists_eq_left, List.append_nil] at hmem
  have hfull : (fullCondition r).isCondition = true := by
    apply isCondition_andAll
    simp only [List.mem_append, List.mem_map, List.mem_singleton]
    rintro e (⟨j, -, rfl⟩ | rfl)
    · apply j.isCondition_toExpr
    · apply hr.isCondition
  have hreads : ReadsOnly r.columnList (fullCondition r) := by
    apply readsOnly_andAll
    simp only [List.mem_append, List.mem_map, List.mem_singleton]
    rintro e (⟨j, hj, rfl⟩ | rfl)
    · apply readsOnly_join hj
    · apply readsOnly_condition
  have hhas : ∀ env ∈ all, env.Has r.columnList := by
    intro env henv
    obtain ⟨pick, hpick, rfl⟩ := (hmem env).1 henv
    apply hfits.has hr hdb hpick
  have hselected := selectEnvs_of_defined fun env henv =>
    ⟨_, eval_of_readsOnly hfull hreads (hhas env henv)⟩
  obtain ⟨sorted, hsorted⟩ := @sortEnvs_of_has (all.filter (fullCondition r).isTrueOn) r.order (by
    intro env henv c hc
    apply hhas env (List.mem_of_mem_filter henv)
    rw [columnList]
    simp only [List.mem_append]
    right
    apply hc)
  use sorted
  constructor
  · rw [readEnvs, hall]
    apply bind_eq_ok.2 ⟨_, rfl, bind_eq_ok.2 ⟨_, hselected, hsorted⟩⟩
  · intro env
    rw [(perm_of_sortEnvs hsorted).mem_iff, List.mem_filter, hmem, isTrueOn_fullCondition]
    constructor
    · rintro ⟨⟨pick, hpick, rfl⟩, hjoins, hcondition⟩
      use pick
      constructor
      · constructor
        · apply hpick
        · intro j hj
          rw [← isTrueOn_env_iff hr hfits hdb hpick j.isCondition_toExpr (readsOnly_join hj)]
          apply hjoins j hj
        · rw [← isTrueOn_env_iff hr hfits hdb hpick hr.isCondition r.readsOnly_condition]
          apply hcondition
      · rfl
    · rintro ⟨pick, hpick, rfl⟩
      constructor
      · use pick, hpick.picks
      · constructor
        · intro j hj
          rw [isTrueOn_env_iff hr hfits hdb hpick.picks j.isCondition_toExpr (readsOnly_join hj)]
          apply hpick.joins j hj
        · rw [isTrueOn_env_iff hr hfits hdb hpick.picks hr.isCondition r.readsOnly_condition]
          apply hpick.condition

theorem rowOf_env (hr : r.Sound) (pick : Pick) :
  rowOf r.projections (pick.env r.tables) = Row.sample r.projections pick.cell
  := by
  rw [rowOf, cellsOf, Row.sample]
  congr 2
  apply List.map_congr_left
  intro c hc
  apply Pick.get?_env (hr.mem_tables (mem_columnList_of_mem_projections hc))

/-- The answer to the query has the rows of the picks in the relation. -/
theorem exists_answer (hr : r.Sound) (hfits : r.Fits db) (hdb : db.Rectangular) :
  ∃ rows, db.answer ⟨r⟩ = .ok rows
    ∧ ∀ row, row ∈ rows ↔ ∃ pick, r.Holds db pick ∧ row = Row.sample r.projections pick.cell
  := by
  obtain ⟨envs, henvs, hmem⟩ := exists_readEnvs hr hfits hdb
  use rowsOf r envs
  constructor
  · rw [answer_eq_ok hr.limit hr.limitInverse]
    use envs, henvs
    constructor
    · intro env henv c hc
      obtain ⟨pick, hpick, rfl⟩ := (hmem env).1 henv
      apply hfits.has hr hdb hpick.picks c (mem_columnList_of_mem_projections hc)
    · rfl
  · intro row
    rw [mem_rowsOf]
    constructor
    · rintro ⟨env, henv, rfl⟩
      obtain ⟨pick, hpick, rfl⟩ := (hmem env).1 henv
      use pick, hpick, rowOf_env hr pick
    · rintro ⟨pick, hpick, rfl⟩
      use pick.env r.tables, (hmem _).2 ⟨pick, hpick, rfl⟩, rowOf_env hr pick

theorem answer_of_isEmpty (hr : r.Sound) (hfits : r.Fits db) (hdb : db.Rectangular)
    (he : r.isEmpty = true) :
  db.answer ⟨r⟩ = .ok []
  := by
  obtain ⟨rows, hrows, hmem⟩ := exists_answer hr hfits hdb
  have hnil : rows = [] := by
    rw [List.eq_nil_iff_forall_not_mem]
    intro row hrow
    obtain ⟨pick, hpick, -⟩ := (hmem row).1 hrow
    rw [hpick.isEmpty_eq_false] at he
    cases he
  rw [hrows, hnil]

end

end Relation

end RelGraph.Sql
