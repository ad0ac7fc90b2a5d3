import RelGraph.Proofs.Sql.Picks

/-!
# Places of records

A table may have equal rows, so that a combination of rows is not given by its records: two
combinations can have the same records from different places in their tables.  The combinations
that a query reads are those of all the places on which the relation holds, each of them once.  If
the relation is unique, the answer has one row for each of these places.
-/

namespace RelGraph.Sql

/-! ### Values of expressions that can be evaluated -/

namespace Expr

section

variable {env : Env} {es : List Expr}
  (ih : ∀ e ∈ es, ∀ v, eval env e = .ok v → e.valueOn ⟨env⟩ = v)

include ih

theorem joinTexts_of_evalConcat {cell : Cell} (h : evalConcat env es = .ok cell) :
  joinTexts (es.map (textOn ⟨env⟩)) = cell
  := by
  induction es generalizing cell with
  | nil =>
    cases h
    rfl
  | cons e es ihs =>
    rw [List.forall_mem_cons] at ih
    rw [evalConcat] at h
    simp only [bind_eq_ok] at h
    obtain ⟨v, hv, text, htext, h⟩ := h
    have he : e.textOn ⟨env⟩ = text := by
      rw [textOn, ih.1 v hv]
      cases v with
      | text s => exact Except.ok.inj htext
      | truth b => cases htext
    rw [List.map_cons, joinTexts, he]
    cases text with
    | none =>
      cases h
      rfl
    | some s =>
      obtain ⟨rest, hrest, h⟩ := bind_eq_ok.1 h
      cases h
      rw [ihs ih.2 hrest]
      rfl

theorem truthOn_of_toTruth {e : Expr} (he : e ∈ es) {v : Value} (hv : eval env e = .ok v)
    {t : Option Bool} (ht : v.toTruth = .ok t) :
  e.truthOn ⟨env⟩ = t
  := by
  rw [truthOn, ih e he v hv, toTruth_eq_ok.1 ht]
  rfl

theorem allTrue_of_evalAnd {t : Option Bool} (h : evalAnd env es = .ok t) :
  Sparql.allTrue (es.map (truthOn ⟨env⟩)) = t
  := by
  induction es generalizing t with
  | nil =>
    cases h
    rfl
  | cons e es ihs =>
    rw [evalAnd] at h
    simp only [bind_eq_ok] at h
    obtain ⟨v, hv, u, hu, h⟩ := h
    rw [List.map_cons, Sparql.allTrue_cons, truthOn_of_toTruth ih List.mem_cons_self hv hu]
    rw [List.forall_mem_cons] at ih
    rcases u with _ | _ | _
    · obtain ⟨w, hw, h⟩ := bind_eq_ok.1 h
      rw [ihs ih.2 hw]
      rcases w with _ | _ | _ <;> cases h <;> rfl
    · cases h
      rfl
    · rw [ihs ih.2 h]
      rcases t with _ | _ | _ <;> rfl

theorem anyTrue_of_evalOr {t : Option Bool} (h : evalOr env es = .ok t) :
  Sparql.anyTrue (es.map (truthOn ⟨env⟩)) = t
  := by
  induction es generalizing t with
  | nil =>
    cases h
    rfl
  | cons e es ihs =>
    rw [evalOr] at h
    simp only [bind_eq_ok] at h
    obtain ⟨v, hv, u, hu, h⟩ := h
    rw [List.map_cons, Sparql.anyTrue_cons, truthOn_of_toTruth ih List.mem_cons_self hv hu]
    rw [List.forall_mem_cons] at ih
    rcases u with _ | _ | _
    · obtain ⟨w, hw, h⟩ := bind_eq_ok.1 h
      rw [ihs ih.2 hw]
      rcases w with _ | _ | _ <;> cases h <;> rfl
    · rw [ihs ih.2 h]
      rcases t with _ | _ | _ <;> rfl
    · cases h
      rfl

end

/-- An expression that can be evaluated has its value on the row. -/
theorem valueOn_of_eval {env : Env} {e : Expr} {v : Value} (h : eval env e = .ok v) :
  e.valueOn ⟨env⟩ = v
  := by
  induction e generalizing v with
  | always | never | constant s =>
    cases h
    rfl
  | column c =>
    obtain ⟨cell, hcell, h⟩ := bind_eq_ok.1 h
    cases h
    rw [valueOn, (Env.isSome_of_lookup hcell).2]
  | concat es ih =>
    obtain ⟨cell, hcell, h⟩ := bind_eq_ok.1 h
    cases h
    rw [valueOn, valuesOn_eq_map, List.map_map, ← joinTexts_of_evalConcat (fun e he v => ih e he) hcell]
    rfl
  | and es ih =>
    obtain ⟨t, ht, h⟩ := bind_eq_ok.1 h
    cases h
    rw [valueOn, valuesOn_eq_map, List.map_map, ← allTrue_of_evalAnd (fun e he v => ih e he) ht]
    rfl
  | or es ih =>
    obtain ⟨t, ht, h⟩ := bind_eq_ok.1 h
    cases h
    rw [valueOn, valuesOn_eq_map, List.map_map, ← anyTrue_of_evalOr (fun e he v => ih e he) ht]
    rfl
  | not e ih =>
    rw [eval] at h
    simp only [bind_eq_ok, toTruth_eq_ok] at h
    obtain ⟨_, hv, t, rfl, h⟩ := h
    cases h
    rw [valueOn, ih hv]
    rfl
  | equal a b iha ihb =>
    rw [eval] at h
    simp only [bind_eq_ok] at h
    obtain ⟨x, hx, y, hy, h⟩ := h
    rw [valueOn, iha hx, ihb hy]
    cases x <;> cases y <;> cases h <;> rfl
  | isNotNull e ih =>
    rw [eval] at h
    simp only [bind_eq_ok] at h
    obtain ⟨x, hx, text, htext, h⟩ := h
    cases h
    rw [valueOn, ih hx]
    cases x <;> cases htext
    rfl

end Expr

/-! ### The combinations of all places -/

/-- A place in each table. -/
abbrev Place := Table → Nat

namespace Database

variable {db : Database} {aliases : Aliases} {t : Table} {ts : List Table} {i j : Place}

/-- The records at a place. -/
def pickAt (db : Database) (aliases : Aliases) (i : Place) : Pick := fun t =>
  ((db.recordsAt (aliases.tableOf t))[i t]?).getD []

/-- The places in some tables.  Those in other tables do not matter and are the first ones. -/
def places (db : Database) (aliases : Aliases) : List Table → List Place
  | [] => [fun _ => 0]
  | t :: ts =>
    (List.range (db.recordsAt (aliases.tableOf t)).length).flatMap fun n =>
      (db.places aliases ts).map fun i => Function.update i t n

theorem mem_places_iff (hts : ts.Nodup) :
  i ∈ db.places aliases ts
    ↔ (∀ t ∈ ts, i t < (db.recordsAt (aliases.tableOf t)).length) ∧ ∀ t ∉ ts, i t = 0
  := by
  induction ts generalizing i with
  | nil => simp [places, funext_iff]
  | cons t ts ih =>
    rw [List.nodup_cons] at hts
    simp only [places, List.mem_flatMap, List.mem_map, List.mem_range, ih hts.2]
    constructor
    · rintro ⟨n, hn, j, ⟨hlt, hzero⟩, rfl⟩
      constructor
      · intro u hu
        by_cases hut : u = t
        · subst hut
          simpa using hn
        · rw [Function.update_of_ne hut]
          apply hlt u (by simpa [hut] using hu)
      · intro u hu
        rw [List.mem_cons, not_or] at hu
        rw [Function.update_of_ne hu.1, hzero u hu.2]
    · rintro ⟨hlt, hzero⟩
      use i t, hlt t (by simp), Function.update i t 0
      constructor
      · constructor
        · intro u hu
          rw [Function.update_of_ne]
          · apply hlt u (by simp [hu])
          · rintro rfl
            apply hts.1 hu
        · intro u hu
          by_cases hut : u = t
          · simp [hut]
          · rw [Function.update_of_ne hut]
            apply hzero u (by simp [hut, hu])
      · simp

/-- Places that are the same in the tables are equal. -/
theorem eq_of_mem_places {j : Place} (hts : ts.Nodup) (hi : i ∈ db.places aliases ts)
    (hj : j ∈ db.places aliases ts) (h : ∀ t ∈ ts, i t = j t) :
  i = j
  := by
  funext t
  by_cases ht : t ∈ ts
  · apply h t ht
  · rw [((mem_places_iff hts).1 hi).2 t ht, ((mem_places_iff hts).1 hj).2 t ht]

theorem nodup_places (hts : ts.Nodup) :
  (db.places aliases ts).Nodup
  := by
  induction ts with
  | nil => simp [places]
  | cons t ts ih =>
    rw [List.nodup_cons] at hts
    rw [places, List.nodup_flatMap]
    constructor
    · intro n _
      apply List.Nodup.map_on _ (ih hts.2)
      intro i hi j hj hij
      apply eq_of_mem_places hts.2 hi hj
      intro u hu
      have hut : u ≠ t := by
        rintro rfl
        apply hts.1 hu
      simpa [hut] using congrFun hij u
    · apply List.nodup_range.imp
      intro n n' hne i hi hi'
      obtain ⟨j, -, rfl⟩ := List.mem_map.1 hi
      obtain ⟨j', -, heq⟩ := List.mem_map.1 hi'
      apply hne
      simpa using (congrFun heq t).symm

theorem pickAt_update_of_ne {u : Table} (h : u ≠ t) (n : Nat) :
  db.pickAt aliases (Function.update i t n) u = db.pickAt aliases i u
  := by
  rw [pickAt, pickAt, Function.update_of_ne h]

theorem recordsAt_eq_map (db : Database) (t : Table) :
  db.recordsAt t
    = (List.range (db.recordsAt t).length).map fun n => ((db.recordsAt t)[n]?).getD []
  := by
  apply List.ext_getElem
  · simp
  · intro n h _
    simp [h]

theorem isSome_of_envsOf {news : List Env} (h : db.envsOf aliases t = .ok news) :
  (db.tables.get? (aliases.tableOf t)).isSome
  := by
  rw [envsOf] at h
  split at h
  · rename_i data hdata
    rw [hdata]
    rfl
  · cases h

/-- Only tables of the database can be combined. -/
theorem isSome_of_combine {envs all : List Env} (h : db.combine aliases envs ts = .ok all)
    (ht : t ∈ ts) :
  (db.tables.get? (aliases.tableOf t)).isSome
  := by
  induction ts generalizing envs with
  | nil => cases ht
  | cons u ts ih =>
    rw [combine, bind_eq_ok] at h
    obtain ⟨news, hnews, h⟩ := h
    obtain rfl | ht := List.mem_cons.1 ht
    · apply isSome_of_envsOf hnews
    · apply ih h ht

/-- The combinations are those of the places, in their order. -/
theorem combine_eq_map (hts : ts.Nodup) {envs all : List Env}
    (h : db.combine aliases envs ts = .ok all) :
  all = envs.flatMap fun env =>
    (db.places aliases ts).map fun i => (db.pickAt aliases i).env ts ++ env
  := by
  induction ts generalizing envs with
  | nil =>
    cases h
    simp [places, Pick.env]
  | cons t ts ih =>
    rw [List.nodup_cons] at hts
    rw [combine, bind_eq_ok] at h
    obtain ⟨news, hnews, h⟩ := h
    rw [envsOf_eq (isSome_of_envsOf hnews)] at hnews
    cases hnews
    rw [ih hts.2 h, List.flatMap_assoc]
    apply List.flatMap_congr
    intro env _
    rw [recordsAt_eq_map db, places, List.map_map, List.map_map, List.flatMap_map, List.map_flatMap]
    apply List.flatMap_congr
    intro n _
    rw [List.map_map]
    apply List.map_congr_left
    intro i _
    have htail : (db.pickAt aliases (Function.update i t n)).env ts
        = (db.pickAt aliases i).env ts := by
      rw [Pick.env, Pick.env]
      apply List.flatMap_congr
      intro u hu
      rw [pickAt_update_of_ne]
      rintro rfl
      apply hts.1 (by simpa using hu)
    simp only [Function.comp_apply]
    rw [Pick.env_cons, htail, List.append_assoc]
    simp [pickAt]

/-- A selection succeeds only if the condition has a truth value everywhere. -/
theorem eval_of_selectEnvs {condition : Expr} {envs selected : List Env}
    (h : selectEnvs condition envs = .ok selected) {env : Env} (henv : env ∈ envs) :
  condition.eval env = .ok (.truth (condition.truthOn ⟨env⟩))
  := by
  induction envs generalizing selected with
  | nil => cases henv
  | cons first envs ih =>
    rw [selectEnvs] at h
    simp only [bind_eq_ok, Expr.toTruth_eq_ok] at h
    obtain ⟨_, hv, t, rfl, rest, hrest, -⟩ := h
    obtain rfl | henv := List.mem_cons.1 henv
    · rw [Expr.truthOn, Expr.valueOn_of_eval hv]
      apply hv
    · apply ih hrest henv

theorem isTrueOn_iff_of_selectEnvs {condition : Expr} {envs selected : List Env}
    (h : selectEnvs condition envs = .ok selected) {env : Env} (henv : env ∈ envs) :
  condition.isTrueOn env = true ↔ condition.truthOn ⟨env⟩ = some true
  := by
  rw [Expr.isTrueOn_iff, eval_of_selectEnvs h henv, Except.ok.injEq, Value.truth.injEq]

end Database

/-! ### Rows with given cells -/

namespace Row

variable {cs : List Column} {cells : Column → Cell}

/-- The row with the given cells, in the order of their columns. -/
def ofCells (ps : List (Column × Cell)) : Row := ⟨canonical ps⟩

theorem cells_sample (cs : List Column) (cells : Column → Cell) :
  (sample cs cells).cells = cs.map fun c => (c, cells c)
  := by
  induction cs with
  | nil => rfl
  | cons c cs ih => apply congrArg (List.cons (c, cells c)) ih

/-- The row of increasing columns is known from its cells. -/
theorem sample_eq_ofCells (hcs : Increasing cs) {ps : List (Column × Cell)}
    (h : ∀ p, p ∈ ps ↔ p.1 ∈ cs ∧ p.2 = cells p.1) :
  sample cs cells = ofCells ps
  := by
  have hcells : (sample cs cells).cells = canonical ps := by
    rw [cells_sample]
    apply eq_of_increasing (increasing_map_pair hcs cells) (increasing_canonical ps)
    rintro ⟨c, cell⟩
    rw [mem_canonical, h, List.mem_map]
    constructor
    · rintro ⟨_, hd, heq⟩
      cases heq
      use hd
    · rintro ⟨hc, heq⟩
      use c, hc
      rw [show cell = cells c from heq]
  rw [ofCells, ← hcells]

theorem sample_congr {cells' : Column → Cell} (h : ∀ c ∈ cs, cells c = cells' c) :
  sample cs cells = sample cs cells'
  := by
  rw [sample, sample, List.map_congr_left h]

end Row

/-! ### The rows of all places -/

/-- The place in some tables that are read under other names. -/
def Place.under (i : Place) (ts : List Table) (name : Table → Table) : Place := fun t =>
  if t ∈ ts then i (name t) else 0

namespace Relation

open Expr Database

/-- The row of a place. -/
def rowAt (r : Relation) (db : Database) (i : Place) : Row :=
  Row.sample r.projections (db.pickAt r.aliases i).cell

/-- The rows come from the places on which a relation holds, and from each of them if the relation
is unique. -/
structure ReadFrom (r : Relation) (db : Database) (rows : List Row) (places : List Place) :
    Prop where
  nodup : places.Nodup
  mem_iff : ∀ i, i ∈ places
    ↔ i ∈ db.places r.aliases r.tables ∧ r.Holds db (db.pickAt r.aliases i)
  mem : ∀ row ∈ rows, ∃ i ∈ places, row = r.rowAt db i
  perm : r.unique = true → rows.Perm (places.map (r.rowAt db))
  distinct : r.unique = false → rows.Nodup

section

variable {r : Relation} {db : Database}

theorem truthOn_env_iff (hr : r.Sound) (pick : Pick) :
  (fullCondition r).truthOn ⟨pick.env r.tables⟩ = some true
    ↔ (∀ j ∈ r.joins, HoldsAt pick.cell j.toExpr) ∧ HoldsAt pick.cell r.condition
  := by
  have hiff : ∀ e, ReadsOnly r.columnList e
      → (HoldsAt pick.cell e ↔ e.truthOn ⟨pick.env r.tables⟩ = some true) := by
    intro e he
    apply holdsAt_iff
    intro c hc
    apply Pick.get?_env (hr.mem_tables (he c hc))
  rw [fullCondition, truthOn_andAll_eq_true, hiff _ r.readsOnly_condition]
  simp only [List.mem_append, List.mem_map, List.mem_singleton, or_imp, forall_and,
    forall_exists_index, and_imp, forall_apply_eq_imp_iff₂, forall_eq]
  apply and_congr_left
  intro _
  apply forall₂_congr
  intro j hj
  rw [hiff _ (readsOnly_join hj)]

theorem picks_pickAt {i : Place} (hi : i ∈ db.places r.aliases r.tables) :
  db.Picks r.aliases r.tables (db.pickAt r.aliases i)
  := by
  intro t ht
  have hlt := ((mem_places_iff r.nodup_tables).1 hi).1 t ht
  rw [pickAt, List.getElem?_eq_getElem hlt]
  apply List.getElem_mem

section

variable {aliases : Aliases} {name : Table → Table}
  (htableOf : ∀ t ∈ r.tables, aliases.tableOf (name t) = r.aliases.tableOf t)

include htableOf

/-- At the place under other names are the records that are read under these names. -/
theorem pickAt_under (i : Place) {t : Table} (ht : t ∈ r.tables) :
  db.pickAt r.aliases (i.under r.tables name) t = (db.pickAt aliases i).under name t
  := by
  rw [Pick.under, pickAt, pickAt, htableOf t ht, Place.under, if_pos ht]

theorem rowAt_under (hr : r.Sound) (i : Place) :
  r.rowAt db (i.under r.tables name)
    = Row.sample r.projections ((db.pickAt aliases i).under name).cell
  := by
  rw [rowAt]
  apply Row.sample_congr
  intro c hc
  rw [Pick.cell, Pick.cell, pickAt_under htableOf i]
  apply hr.mem_tables (mem_columnList_of_mem_projections hc)

theorem under_mem_places {ts : List Table} (hts : ts.Nodup) (hsub : ∀ t ∈ r.tables, name t ∈ ts)
    {i : Place} (hi : i ∈ db.places aliases ts) :
  i.under r.tables name ∈ db.places r.aliases r.tables
  := by
  rw [mem_places_iff hts] at hi
  rw [mem_places_iff r.nodup_tables]
  constructor
  · intro t ht
    rw [← htableOf t ht, Place.under, if_pos ht]
    apply hi.1 _ (hsub t ht)
  · intro t ht
    rw [Place.under, if_neg ht]

theorem holds_under_iff (hr : r.Sound) (i : Place) :
  r.Holds db (db.pickAt r.aliases (i.under r.tables name))
    ↔ r.Holds db ((db.pickAt aliases i).under name)
  := by
  constructor
  · apply Holds.congr hr fun t ht => pickAt_under htableOf i ht
  · apply Holds.congr hr fun t ht => (pickAt_under htableOf i ht).symm

end

/-- An answer comes from places. -/
theorem exists_readFrom (hr : r.Sound) {rows : List Row} (h : db.answer ⟨r⟩ = .ok rows) :
  ∃ places, r.ReadFrom db rows places
  := by
  rw [answer_eq_ok hr.limit hr.limitInverse] at h
  obtain ⟨envs, henvs, -, rfl⟩ := h
  rw [readEnvs] at henvs
  simp only [bind_eq_ok] at henvs
  obtain ⟨all, hall, selected, hselected, hsorted⟩ := henvs
  have hmap := combine_eq_map r.nodup_tables hall
  simp only [List.flatMap_singleton, List.append_nil] at hmap
  subst hmap
  have hperm := perm_of_sortEnvs hsorted
  rw [selectEnvs_eq hselected, List.filter_map] at hperm
  have hholds : ∀ i ∈ db.places r.aliases r.tables,
      (fullCondition r).isTrueOn ((db.pickAt r.aliases i).env r.tables) = true
        ↔ r.Holds db (db.pickAt r.aliases i) := by
    intro i hi
    rw [isTrueOn_iff_of_selectEnvs hselected (List.mem_map_of_mem hi), truthOn_env_iff hr]
    constructor
    · rintro ⟨hjoins, hcondition⟩
      exact ⟨picks_pickAt hi, hjoins, hcondition⟩
    · intro hi
      exact ⟨hi.joins, hi.condition⟩
  have hrows : (envs.map (rowOf r.projections)).Perm
      (((db.places r.aliases r.tables).filter fun i =>
        (fullCondition r).isTrueOn ((db.pickAt r.aliases i).env r.tables)).map (r.rowAt db)) := by
    have hrow : r.rowAt db = rowOf r.projections ∘ fun i => (db.pickAt r.aliases i).env r.tables := by
      funext i
      apply (rowOf_env hr _).symm
    rw [hrow, ← List.map_map]
    apply hperm.map
  use (db.places r.aliases r.tables).filter fun i =>
    (fullCondition r).isTrueOn ((db.pickAt r.aliases i).env r.tables)
  constructor
  · apply (nodup_places r.nodup_tables).filter
  · intro i
    rw [List.mem_filter, and_congr_right_iff]
    apply hholds i
  · intro row hrow
    rw [mem_rowsOf, ← List.mem_map, hrows.mem_iff, List.mem_map] at hrow
    obtain ⟨i, hi, rfl⟩ := hrow
    use i
  · intro hunique
    rw [rowsOf, if_pos hunique]
    apply hrows
  · intro hunique
    rw [rowsOf, if_neg (by simp [hunique])]
    apply nodup_dedup

/-- An answer has the rows of the picks in the relation. -/
theorem mem_answer_iff (hr : r.Sound) {rows : List Row} (h : db.answer ⟨r⟩ = .ok rows) {row : Row} :
  row ∈ rows ↔ ∃ pick, r.Holds db pick ∧ row = Row.sample r.projections pick.cell
  := by
  rw [answer_eq_ok hr.limit hr.limitInverse] at h
  obtain ⟨envs, henvs, -, rfl⟩ := h
  rw [readEnvs] at henvs
  simp only [bind_eq_ok] at henvs
  obtain ⟨all, hall, selected, hselected, hsorted⟩ := henvs
  obtain ⟨all', hall', hmem⟩ := combine_eq r.nodup_tables (fun _ ht => isSome_of_combine hall ht) [[]]
  rw [hall] at hall'
  cases hall'
  simp only [List.mem_singleton, exists_eq_left, List.append_nil] at hmem
  have henvs : ∀ env, env ∈ envs ↔ ∃ pick, r.Holds db pick ∧ env = pick.env r.tables := by
    intro env
    rw [(perm_of_sortEnvs hsorted).mem_iff, selectEnvs_eq hselected, List.mem_filter]
    constructor
    · rintro ⟨henv, htrue⟩
      obtain ⟨pick, hpick, rfl⟩ := (hmem env).1 henv
      rw [isTrueOn_iff_of_selectEnvs hselected henv, truthOn_env_iff hr] at htrue
      exact ⟨pick, ⟨hpick, htrue.1, htrue.2⟩, rfl⟩
    · rintro ⟨pick, hpick, rfl⟩
      have henv := (hmem _).2 ⟨pick, hpick.picks, rfl⟩
      use henv
      rw [isTrueOn_iff_of_selectEnvs hselected henv, truthOn_env_iff hr]
      exact ⟨hpick.joins, hpick.condition⟩
  rw [mem_rowsOf]
  constructor
  · rintro ⟨env, henv, rfl⟩
    obtain ⟨pick, hpick, rfl⟩ := (henvs env).1 henv
    use pick, hpick, rowOf_env hr pick
  · rintro ⟨pick, hpick, rfl⟩
    use pick.env r.tables, (henvs _).2 ⟨pick, hpick, rfl⟩, rowOf_env hr pick

/-- The rows of an answer are those of its places. -/
theorem ReadFrom.mem_rows_iff {rows : List Row} {places : List Place}
    (hread : r.ReadFrom db rows places) (hr : r.Sound) (h : db.answer ⟨r⟩ = .ok rows) {row : Row} :
  row ∈ rows ↔ row ∈ places.map (r.rowAt db)
  := by
  rw [List.mem_map]
  constructor
  · intro hrow
    obtain ⟨i, hi, rfl⟩ := hread.mem row hrow
    use i
  · rintro ⟨i, hi, rfl⟩
    apply (mem_answer_iff hr h).2
    use db.pickAt r.aliases i, ((hread.mem_iff i).1 hi).2
    rfl

end

end Relation

end RelGraph.Sql
