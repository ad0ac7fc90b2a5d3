import RelGraph.Proofs.Except
import RelGraph.Proofs.Sql.Conditions
import RelGraph.Proofs.Sql.Distinct

/-!
# Answers of queries

What an answer consists of: the combinations of rows on which the joins and the condition of the
relation are true, and of these the projected columns.  A relation with one more condition reads
those combinations on which this condition is true as well.
-/

namespace RelGraph.Sql

variable {env : Env} {envs : List Env} {cs : List Column} {db : Database} {r : Relation}

namespace Expr

/-! ### Conditions that are true -/

/-- The condition evaluates to true. -/
def isTrueOn (e : Expr) (env : Env) : Bool :=
  match e.eval env with
  | .ok (.truth (some true)) => true
  | _ => false

theorem isTrueOn_iff {e : Expr} :
  e.isTrueOn env = true ↔ e.eval env = .ok (.truth (some true))
  := by
  unfold isTrueOn
  split
  · rename_i h
    simp [h]
  · rename_i h
    simp only [Bool.false_eq_true, false_iff]
    apply h

/-- Where the columns of a condition are there, it is true exactly when its value on the row
is. -/
theorem isTrueOn_of_readsOnly {e : Expr} (hc : e.isCondition = true) (hr : ReadsOnly cs e)
    (h : env.Has cs) :
  e.isTrueOn env = true ↔ e.truthOn ⟨env⟩ = some true
  := by
  rw [isTrueOn_iff, eval_of_readsOnly hc hr h]
  simp

theorem toTruth_eq_ok {v : Value} {t : Option Bool} :
  v.toTruth = .ok t ↔ v = .truth t
  := by
  cases v <;> simp [Value.toTruth]

theorem evalAnd_eq_true_iff {es : List Expr} :
  evalAnd env es = .ok (some true) ↔ ∀ e ∈ es, e.isTrueOn env = true
  := by
  induction es with
  | nil => simp [evalAnd]
  | cons e es ih =>
    rw [List.forall_mem_cons, ← ih, isTrueOn_iff, evalAnd]
    simp only [bind_eq_ok, toTruth_eq_ok]
    constructor
    · rintro ⟨_, hv, t, rfl, h⟩
      rcases t with _ | _ | _
      · -- an unknown operand never gives a true conjunction
        obtain ⟨u, _, h⟩ := bind_eq_ok.1 h
        rcases u with _ | _ | _ <;> cases h
      · cases h
      · use hv, h
    · rintro ⟨he, hes⟩
      use .truth (some true), he, some true, rfl, hes

theorem isTrueOn_and {es : List Expr} :
  (Expr.and es).isTrueOn env = true ↔ ∀ e ∈ es, e.isTrueOn env = true
  := by
  rw [← evalAnd_eq_true_iff, isTrueOn_iff, eval]
  cases evalAnd env es <;> simp [bind, Except.bind, pure, Except.pure]

/-- A conjunction is true exactly when all its operands are, even where some of them have no
value. -/
theorem isTrueOn_andAll {es : List Expr} :
  (andAll es).isTrueOn env = true ↔ ∀ e ∈ es, e.isTrueOn env = true
  := by
  by_cases h : Expr.never ∈ es
  · rw [andAll, if_pos h]
    constructor
    · simp [isTrueOn, eval]
    · intro hes
      apply hes _ h
  · exact Junction.all_iff (P := fun e => e.isTrueOn env = true) .and rfl
      (fun _ => isTrueOn_and) h

end Expr

namespace Database

open Expr

/-! ### The combinations that are read -/

theorem selectEnvs_eq {condition : Expr} {envs selected : List Env}
    (h : selectEnvs condition envs = .ok selected) :
  selected = envs.filter condition.isTrueOn
  := by
  induction envs generalizing selected with
  | nil =>
    cases h
    rfl
  | cons env envs ih =>
    rw [selectEnvs] at h
    simp only [bind_eq_ok, toTruth_eq_ok, pure_eq_ok] at h
    obtain ⟨_, hv, t, rfl, rest, hrest, rfl⟩ := h
    have ht : condition.isTrueOn env = true ↔ t = some true := by
      rw [isTrueOn_iff, hv]
      simp
    rw [List.filter_cons, ← ih hrest]
    simp only [ht]

/-- A selection succeeds if the condition has a truth value everywhere. -/
theorem selectEnvs_of_defined {condition : Expr}
    (h : ∀ env ∈ envs, ∃ t, condition.eval env = .ok (.truth t)) :
  selectEnvs condition envs = .ok (envs.filter condition.isTrueOn)
  := by
  induction envs with
  | nil => rfl
  | cons env envs ih =>
    rw [List.forall_mem_cons] at h
    obtain ⟨⟨t, ht⟩, hrest⟩ := h
    rw [selectEnvs, ht, ih hrest, List.filter_cons]
    unfold isTrueOn
    rw [ht]
    rcases t with _ | _ | _ <;> rfl

/-- The combinations of rows that a relation reads, in their order. -/
def readEnvs (db : Database) (r : Relation) : Except DatabaseError (List Env) := do
  let envs ← db.combine r.aliases [[]] r.tables
  let selected ← selectEnvs (fullCondition r) envs
  sortEnvs selected r.order

/-- Sorting only changes the order. -/
theorem perm_of_sortEnvs {envs sorted : List Env} {order : Option (Column × Direction)}
    (h : sortEnvs envs order = .ok sorted) :
  sorted.Perm envs
  := by
  cases order with
  | none =>
    cases h
    apply List.Perm.refl
  | some o =>
    obtain ⟨c, d⟩ := o
    rw [sortEnvs, bind_eq_ok] at h
    obtain ⟨keyed, hkeyed, h⟩ := h
    rw [pure_eq_ok] at h
    subst h
    have hmap : keyed.map (·.2) = envs := by
      rw [mapM_eq_ok] at hkeyed
      induction hkeyed with
      | nil => rfl
      | cons hkey _ ih =>
        obtain ⟨v, _, hkey⟩ := bind_eq_ok.1 hkey
        cases hkey
        rw [List.map_cons, ih]
    rw [← hmap]
    apply (List.mergeSort_perm keyed _).map

/-- Sorting succeeds if the column is there. -/
theorem sortEnvs_of_has {order : Option (Column × Direction)}
    (h : ∀ env ∈ envs, env.Has (order.toList.map (·.1))) :
  ∃ sorted, sortEnvs envs order = .ok sorted
  := by
  cases order with
  | none =>
    use envs
    rfl
  | some o =>
    obtain ⟨c, d⟩ := o
    have hkeyed : envs.mapM (fun env => do
        let v ← env.lookup c
        return (v, env)) = Except.ok (envs.map fun env => (Row.get? ⟨env⟩ c, env)) := by
      apply mapM_of_forall
      intro env henv
      rw [Env.lookup_of_isSome (h env henv c (by simp))]
      rfl
    rw [sortEnvs, hkeyed]
    apply Exists.intro
    rfl

/-- The cells of some columns. -/
def cellsOf (cs : List Column) (env : Env) : List Cell := cs.map (Row.get? ⟨env⟩)

theorem projectEnv_eq_ok {cells : List Cell} :
  projectEnv cs env = .ok cells ↔ env.Has cs ∧ cells = cellsOf cs env
  := by
  rw [projectEnv, mapM_eq_ok]
  constructor
  · intro h
    induction h with
    | nil => simp [Env.Has, cellsOf]
    | cons hc _ ih =>
      obtain ⟨hsome, hcell⟩ := Env.isSome_of_lookup hc
      simp only [Env.Has, cellsOf, List.forall_mem_cons, List.map_cons, List.cons.injEq] at ih ⊢
      use ⟨hsome, ih.1⟩, hcell.symm, ih.2
  · rintro ⟨h, rfl⟩
    rw [cellsOf, List.forall₂_map_right_iff, List.forall₂_same]
    intro c hc
    apply Env.lookup_of_isSome (h c hc)

/-- The row of some columns. -/
def rowOf (cs : List Column) (env : Env) : Row := ⟨cs.zip (cellsOf cs env)⟩

/-- The rows that a relation makes of the combinations it reads. -/
def rowsOf (r : Relation) (envs : List Env) : List Row :=
  if r.unique then envs.map (rowOf r.projections) else dedup [] (envs.map (rowOf r.projections))

theorem map_zip_dedup (cs : List Column) (envs : List Env) :
  (dedup [] (envs.map (cellsOf cs))).map (fun cells => Row.mk (cs.zip cells))
    = dedup [] (envs.map (rowOf cs))
  := by
  rw [← dedup_map_of_injective, List.map_map]
  · rfl
  · -- rows of as many cells as there are columns are told apart by their cells
    intro a ha b hb hab
    obtain ⟨env, -, rfl⟩ := List.mem_map.1 ha
    obtain ⟨env', -, rfl⟩ := List.mem_map.1 hb
    rw [Row.mk.injEq] at hab
    have hcells := congrArg List.unzip hab
    rw [List.unzip_zip (by simp [cellsOf]), List.unzip_zip (by simp [cellsOf])] at hcells
    apply congrArg Prod.snd hcells

theorem mapM_projectEnv_eq_ok {cells : List (List Cell)} :
  envs.mapM (projectEnv cs) = .ok cells
    ↔ (∀ env ∈ envs, env.Has cs) ∧ cells = envs.map (cellsOf cs)
  := by
  rw [mapM_eq_ok]
  simp only [projectEnv_eq_ok]
  constructor
  · intro h
    induction h with
    | nil => simp
    | cons hc _ ih =>
      rw [List.forall_mem_cons, List.map_cons, hc.2, ih.2]
      use ⟨hc.1, ih.1⟩
  · rintro ⟨h, rfl⟩
    rw [List.forall₂_map_right_iff, List.forall₂_same]
    intro env henv
    use h env henv

/-- The combinations of rows that a query reads, in the order of the query. -/
def orderedEnvs (db : Database) (q : Select) : Except DatabaseError (List Env) := do
  let envs ← db.combine q.relation.aliases [[]] q.relation.tables
  let selected ← selectEnvs (fullCondition q.relation) envs
  sortEnvs selected q.orderAndLimit.1

/-- As many rows as the limit of a query says. -/
def limited (q : Select) (rows : List Row) : List Row :=
  match q.orderAndLimit.2 with
  | some n => rows.take n
  | none => rows

/-- The answer to a query: the rows of the combinations that are read, all of which have the
projected columns, as far as the limit goes. -/
theorem answer_eq_ok_iff {q : Select} {rows : List Row} :
  db.answer q = .ok rows
    ↔ ∃ envs, db.orderedEnvs q = .ok envs ∧ (∀ env ∈ envs, env.Has q.relation.projections)
      ∧ rows = limited q (rowsOf q.relation envs)
  := by
  have hrows : ∀ envs : List Env,
      (match q.orderAndLimit.2 with
        | some n => (if q.distinct then dedup [] (envs.map (cellsOf q.columns))
            else envs.map (cellsOf q.columns)).take n
        | none => if q.distinct then dedup [] (envs.map (cellsOf q.columns))
            else envs.map (cellsOf q.columns)).map (fun cells => Row.mk (q.columns.zip cells))
        = limited q (rowsOf q.relation envs) := by
    intro envs
    have hall : (if q.distinct then dedup [] (envs.map (cellsOf q.columns))
        else envs.map (cellsOf q.columns)).map (fun cells => Row.mk (q.columns.zip cells))
          = rowsOf q.relation envs := by
      by_cases hu : q.relation.unique = true
      · simp [Select.distinct, Select.columns, rowsOf, rowOf, hu, Function.comp_def]
      · simp [Select.distinct, Select.columns, rowsOf, hu, map_zip_dedup]
    rw [limited]
    cases q.orderAndLimit.2 with
    | none => apply hall
    | some n => rw [List.map_take, hall]
  simp only [answer, orderedEnvs, bind_eq_ok, pure_eq_ok, mapM_projectEnv_eq_ok]
  constructor
  · rintro ⟨envs, henvs, selected, hselected, sorted, hsorted, cells, ⟨hhas, rfl⟩, rfl⟩
    use sorted, ⟨envs, henvs, selected, hselected, hsorted⟩, hhas, hrows sorted
  · rintro ⟨sorted, ⟨envs, henvs, selected, hselected, hsorted⟩, hhas, rfl⟩
    use envs, henvs, selected, hselected, sorted, hsorted, sorted.map (cellsOf q.columns),
      ⟨hhas, rfl⟩, hrows sorted

/-- The answer to a query without limits: the rows of the combinations that are read, all of
which have the projected columns. -/
theorem answer_eq_ok (hl : r.limit = none) (hi : r.limitInverse = none) {rows : List Row} :
  db.answer ⟨r⟩ = .ok rows
    ↔ ∃ envs, db.readEnvs r = .ok envs ∧ (∀ env ∈ envs, env.Has r.projections)
      ∧ rows = rowsOf r envs
  := by
  rw [answer_eq_ok_iff]
  simp only [orderedEnvs, limited, readEnvs, Select.orderAndLimit, hl, hi]

/-! ### One more condition -/

theorem isTrueOn_fullCondition :
  (fullCondition r).isTrueOn env = true
    ↔ (∀ j ∈ r.joins, j.toExpr.isTrueOn env = true) ∧ r.condition.isTrueOn env = true
  := by
  simp only [fullCondition, isTrueOn_andAll, List.mem_append, List.mem_map, List.mem_singleton,
    or_imp, forall_and, forall_exists_index, and_imp, forall_apply_eq_imp_iff₂, forall_eq]

theorem isTrueOn_of_mem_readEnvs (h : db.readEnvs r = .ok envs) (henv : env ∈ envs) :
  (fullCondition r).isTrueOn env = true
  := by
  rw [readEnvs] at h
  simp only [bind_eq_ok] at h
  obtain ⟨all, -, selected, hselected, hsorted⟩ := h
  rw [(perm_of_sortEnvs hsorted).mem_iff, selectEnvs_eq hselected, List.mem_filter] at henv
  apply henv.2

theorem mem_rowsOf {row : Row} :
  row ∈ rowsOf r envs ↔ ∃ env ∈ envs, rowOf r.projections env = row
  := by
  rw [rowsOf, ← List.mem_map]
  split
  · rfl
  · simp [mem_dedup]

/-- A relation that differs in its columns and in one more condition reads those combinations on
which this condition is true. -/
theorem perm_filter_of_readEnvs {r s : Relation} {condition : Expr} (ht : s.tables = r.tables)
    (ha : s.aliases = r.aliases) (hj : s.joins = r.joins)
    (hc : ∀ env, s.condition.isTrueOn env = true
      ↔ r.condition.isTrueOn env = true ∧ condition.isTrueOn env = true) {envs envs' : List Env}
    (hr : db.readEnvs r = .ok envs) (hs : db.readEnvs s = .ok envs') :
  envs'.Perm (envs.filter condition.isTrueOn)
  := by
  rw [readEnvs] at hr hs
  simp only [bind_eq_ok] at hr hs
  obtain ⟨all, hall, selected, hselected, hsorted⟩ := hr
  obtain ⟨all', hall', selected', hselected', hsorted'⟩ := hs
  rw [ht, ha, hall] at hall'
  cases hall'
  have heq : selected' = selected.filter condition.isTrueOn := by
    rw [selectEnvs_eq hselected, selectEnvs_eq hselected', List.filter_filter]
    apply List.filter_congr
    intro env _
    rw [Bool.eq_iff_iff, Bool.and_eq_true, isTrueOn_fullCondition, isTrueOn_fullCondition, hj,
      hc]
    constructor
    · rintro ⟨h, h', h''⟩
      use h'', h
    · rintro ⟨h'', h, h'⟩
      use h, h'
  apply (perm_of_sortEnvs hsorted').trans
  rw [heq]
  apply (perm_of_sortEnvs hsorted).symm.filter

end Database

/-! ### Cells of projected rows -/

/-- The row of some columns with given cells. -/
def Row.sample (cs : List Column) (cells : Column → Cell) : Row := ⟨cs.zip (cs.map cells)⟩

theorem get?_sample (cs : List Column) (cells : Column → Cell) (c : Column) :
  (Row.sample cs cells).get? c = if c ∈ cs then cells c else none
  := by
  rw [Row.sample]
  induction cs with
  | nil => rfl
  | cons d cs ih =>
    simp only [Row.get?, List.map_cons, List.zip_cons_cons, List.lookup_cons,
      List.mem_cons] at ih ⊢
    by_cases h : c = d
    · subst h
      simp
    · have hne : (c == d) = false := by simpa using h
      simp only [hne, h, false_or]
      apply ih

theorem get?_sample_of_mem (cells : Column → Cell) {c : Column} (h : c ∈ cs) :
  (Row.sample cs cells).get? c = cells c
  := by
  rw [get?_sample, if_pos h]

theorem get?_rowOf_of_mem (env : Env) {c : Column} (h : c ∈ cs) :
  (Database.rowOf cs env).get? c = Row.get? ⟨env⟩ c
  := get?_sample_of_mem (Row.get? ⟨env⟩) h

end RelGraph.Sql
