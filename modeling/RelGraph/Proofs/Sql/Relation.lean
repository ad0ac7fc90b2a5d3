import RelGraph.Proofs.Sql.Answer

/-!
# Relations with one more condition

What selecting and projecting change in a relation.  The tables stay the same if every column that
is not read any more is mentioned by the condition, and then the rows are those on which the
condition is true.
-/

namespace RelGraph.Sql.Relation

open Expr

variable {r : Relation} {condition : Expr}

/-- A relation that has one more condition than another one, and may read other columns. -/
structure Selects (r s : Relation) (condition : Expr) : Prop where
  database : s.database = r.database
  aliases : s.aliases = r.aliases
  joins : s.joins = r.joins
  order : s.order = r.order
  unique : s.unique = r.unique
  limit : s.limit = r.limit
  limitInverse : s.limitInverse = r.limitInverse
  isTrueOn : ∀ env, s.condition.isTrueOn env = true
    ↔ r.condition.isTrueOn env = true ∧ condition.isTrueOn env = true
  columns : ∀ c, c ∈ s.condition.columnList
    ↔ c ∈ r.condition.columnList ∨ c ∈ condition.columnList

theorem isEmpty_iff :
  r.isEmpty = true ↔ r.condition = .never
  := by
  simp [isEmpty]

theorem isEmpty_eq_false_iff :
  r.isEmpty = false ↔ r.condition ≠ .never
  := by
  simp [isEmpty]

theorem isTrueOn_always (env : Env) :
  Expr.always.isTrueOn env = true
  := rfl

theorem isTrueOn_never (env : Env) :
  Expr.never.isTrueOn env = false
  := rfl

/-- A selection that leaves rows adds the condition. -/
theorem selects_select (h : (r.select condition).isEmpty = false) :
  Selects r (r.select condition) condition
    ∧ (r.select condition).projections = r.projections
  := by
  unfold select at h ⊢
  split at h
  · rename_i halways
    subst halways
    rw [if_pos rfl]
    constructor
    · constructor <;> simp [isTrueOn_always, columnList]
    · rfl
  · rename_i halways
    rw [if_neg halways]
    simp only at h ⊢
    split at h
    · simp [isEmpty, empty] at h
    · rename_i hnever
      rw [if_neg hnever]
      have hmem := never_notMem_of_andAll_ne hnever
      constructor
      · constructor <;> simp [isTrueOn_andAll, mem_columnList_andAll hmem]
      · rfl

/-- A selection that leaves no rows adds a condition that contradicts the other one. -/
theorem not_isTrueOn_of_isEmpty_select (h : (r.select condition).isEmpty = true) (env : Env) :
  ¬ (r.condition.isTrueOn env = true ∧ condition.isTrueOn env = true)
  := by
  rintro ⟨hr, hc⟩
  unfold select at h
  split at h
  · rw [isEmpty_iff.1 h, isTrueOn_never] at hr
    cases hr
  · simp only at h
    have hnever : andAll [r.condition, condition] = .never := by
      split at h
      · assumption
      · apply isEmpty_iff.1 h
    have htrue : (andAll [r.condition, condition]).isTrueOn env = true := by
      simp [isTrueOn_andAll, hr, hc]
    rw [hnever, isTrueOn_never] at htrue
    cases htrue

theorem isEmpty_select_of_isEmpty (h : r.isEmpty = true) (condition : Expr) :
  (r.select condition).isEmpty = true
  := by
  have hnever := isEmpty_iff.1 h
  unfold select
  split
  · apply h
  · simp [andAll, hnever, isEmpty, empty]

theorem isEmpty_eq_false_of_select (h : (r.select condition).isEmpty = false) :
  r.isEmpty = false
  := by
  rw [Bool.eq_false_iff]
  intro hempty
  rw [isEmpty_select_of_isEmpty hempty] at h
  cases h

theorem select_eq_empty (hne : condition ≠ .always) (h : (r.select condition).isEmpty = true) :
  r.select condition = .empty
  := by
  rw [isEmpty_iff] at h
  simp only [select, if_neg hne] at h ⊢
  split_ifs at h ⊢
  · rfl
  · contradiction

theorem project_of_not_isEmpty (h : r.isEmpty = false) (cs : List Column) :
  r.project cs = { r with projections := canonical cs }
  := by
  simp [project, h]

theorem isEmpty_project (r : Relation) (cs : List Column) :
  (r.project cs).isEmpty = r.isEmpty
  := by
  unfold project
  split
  · rename_i h
    rw [h]
    rfl
  · rfl

theorem Selects.project {r s : Relation} (h : Selects r s condition) (hs : s.isEmpty = false)
    (cs : List Column) :
  Selects r (s.project cs) condition
  := by
  rw [project_of_not_isEmpty hs]
  constructor
  · apply h.database
  · apply h.aliases
  · apply h.joins
  · apply h.order
  · apply h.unique
  · apply h.limit
  · apply h.limitInverse
  · apply h.isTrueOn
  · apply h.columns

/-- The tables stay the same if the condition is on columns that were read, and mentions those
that are not read any more. -/
theorem Selects.tables_eq {r s : Relation} (h : Selects r s condition)
    (hs : ∀ c ∈ s.projections, c ∈ r.projections)
    (hc : ∀ c ∈ condition.columnList, c ∈ r.projections)
    (hr : ∀ c ∈ r.projections, c ∈ s.projections ∨ c ∈ condition.columnList) :
  s.tables = r.tables
  := by
  rw [tables, tables, h.aliases, h.joins, h.order]
  apply canonical_congr
  intro t
  simp only [List.mem_append, List.mem_map, h.columns]
  constructor
  · rintro (((ht | ⟨c, hcol | hcol, rfl⟩) | ⟨c, hcol, rfl⟩) | ht)
    · left; left; left
      apply ht
    · left; left; right
      use c
    · left; right
      use c, hc c hcol
    · left; right
      use c, hs c hcol
    · right
      apply ht
  · rintro (((ht | ⟨c, hcol, rfl⟩) | ⟨c, hcol, rfl⟩) | ht)
    · left; left; left
      apply ht
    · left; left; right
      use c, Or.inl hcol
    · left
      obtain hcol | hcol := hr c hcol
      · right
        use c
      · left; right
        use c, Or.inr hcol
    · right
      apply ht

/-! ### Answers -/

open Database

/-- A row of which only some columns are kept. -/
def reread (cs : List Column) (row : Row) : Row := rowOf cs row.cells

theorem get?_reread {cs : List Column} (row : Row) {c : Column} (h : c ∈ cs) :
  (reread cs row).get? c = row.get? c
  := get?_rowOf_of_mem row.cells h

theorem rowOf_eq_iff {cs : List Column} {env env' : Env} :
  rowOf cs env = rowOf cs env' ↔ ∀ c ∈ cs, Row.get? ⟨env⟩ c = Row.get? ⟨env'⟩ c
  := by
  constructor
  · intro h c hc
    rw [← get?_rowOf_of_mem env hc, h, get?_rowOf_of_mem env' hc]
  · intro h
    rw [rowOf, rowOf, cellsOf, cellsOf, List.map_congr_left h]

theorem reread_rowOf {cs cs' : List Column} (h : ∀ c ∈ cs', c ∈ cs) (env : Env) :
  reread cs' (rowOf cs env) = rowOf cs' env
  := by
  rw [reread, rowOf_eq_iff]
  intro c hc
  apply get?_rowOf_of_mem env (h c hc)

/-- The relation with one more condition has the rows on which this condition is true.  If
repetitions are left out, the columns that are not read any more must not tell such rows apart. -/
theorem Selects.perm_rowsOf {db : Database} {r s : Relation} (h : Selects r s condition)
    (ht : s.tables = r.tables) (hc : condition.isCondition = true)
    (hreads : ReadsOnly r.projections condition) (hs : ∀ c ∈ s.projections, c ∈ r.projections)
    (hd : r.unique = true ∨ ∀ row row', Expr.truthOn row condition = some true
      → Expr.truthOn row' condition = some true
      → (∀ c ∈ s.projections, row.get? c = row'.get? c)
      → ∀ c ∈ r.projections, row.get? c = row'.get? c) {envs envs' : List Env}
    (henvs : db.readEnvs r = .ok envs) (hhas : ∀ env ∈ envs, env.Has r.projections)
    (henvs' : db.readEnvs s = .ok envs') :
  (rowsOf s envs').Perm
    (((rowsOf r envs).filter fun row => Expr.truthOn row condition = some true).map
      (reread s.projections))
  := by
  have hperm := perm_filter_of_readEnvs ht h.aliases h.joins h.isTrueOn henvs henvs'
  have htrue : ∀ env ∈ envs, condition.isTrueOn env
      = decide (Expr.truthOn (rowOf r.projections env) condition = some true) := by
    intro env henv
    rw [Bool.eq_iff_iff, decide_eq_true_iff, isTrueOn_of_readsOnly hc hreads (hhas env henv),
      Expr.truthOn_congr]
    intro c hcol
    apply (get?_rowOf_of_mem env (hreads c hcol)).symm
  have hmap : (envs.filter condition.isTrueOn).map (rowOf s.projections)
      = ((envs.map (rowOf r.projections)).filter fun row =>
          Expr.truthOn row condition = some true).map (reread s.projections) := by
    rw [List.filter_map, List.map_map, List.filter_congr htrue]
    apply List.map_congr_left
    intro env _
    apply (reread_rowOf hs env).symm
  rw [rowsOf, rowsOf, h.unique]
  split
  · rw [← hmap]
    apply hperm.map
  · rename_i hu
    rw [← dedup_filter, ← dedup_map_of_injective, ← hmap]
    · apply perm_dedup
      intro row
      apply (hperm.map _).mem_iff
    · intro a ha b hb hab
      rw [List.mem_filter, decide_eq_true_iff] at ha hb
      obtain ⟨env, -, rfl⟩ := List.mem_map.1 ha.1
      obtain ⟨env', -, rfl⟩ := List.mem_map.1 hb.1
      rw [rowOf_eq_iff]
      intro c hcol
      rw [← get?_rowOf_of_mem env hcol, ← get?_rowOf_of_mem env' hcol]
      apply (hd.resolve_left hu) _ _ ha.2 hb.2 _ c hcol
      intro c hcol
      rw [← get?_reread _ hcol, hab, get?_reread _ hcol]

end RelGraph.Sql.Relation
