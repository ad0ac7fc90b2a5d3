import RelGraph.Proofs.Mapping.SolutionMap

/-!
# Narrowed solution maps on a database

The bindings that a solution map gives on a database.  A map and the map that is narrowed to a
binding give the same compatible bindings, in some order.
-/

namespace RelGraph.Mapping.SolutionMap

open Rdf Sql

variable {m : SolutionMap} {b : Binding}

/-- The bindings of the rows of a solution map.  A relation without rows is not asked for, and one
without a database has a single row without cells. -/
def bindings (db : Database) (m : SolutionMap) : Except DatabaseError (List Binding) :=
  if m.isEmpty then .ok []
  else if m.relation.database.isNone then .ok (m.make? Row.empty).toList
  else (fun rows => rows.filterMap m.make?) <$> db.answer ⟨m.relation⟩

/-- What narrowing a solution map relies on.  Only one text of a row stands for a term, so that the
term can be found by a condition, and rows that are told apart by columns which are not read any
more were the same row, or are not left out. -/
structure Narrowable (db : Database) (m : SolutionMap) : Prop where
  wellFormed : m.WellFormed
  limit : m.relation.limit = none
  limitInverse : m.relation.limitInverse = none
  database : m.relation.database.isSome ∨ ∀ e ∈ m.entries, ∃ t, e.2 = .fixed t
  lowerCase : ∀ e ∈ m.entries, e.2.LowerCase
  unambiguous : ∀ rows, db.answer ⟨m.relation⟩ = .ok rows
    → ∀ row ∈ rows, ∀ e ∈ m.entries, e.2.Unambiguous row
  distinct : m.relation.unique = true ∨ ∀ e ∈ m.entries, e.2.isInjective = true

/-- The narrowed map of the conditions of a binding. -/
def narrowed (m : SolutionMap) (b : Binding) : SolutionMap :=
  build (m.relation.select (Expr.andAll (conditionsFor b m.entries))) (m.fixedTerms b)
    (m.looseChecks b)

theorem substitute?_eq_some_iff {m s : SolutionMap} :
  m.substitute? b = some s
    ↔ .never ∉ conditionsFor b m.entries
      ∧ (m.relation.select (Expr.andAll (conditionsFor b m.entries))).isEmpty = false
      ∧ s = m.narrowed b
  := by
  rw [substitute?_eq]
  by_cases hnever : Expr.never ∈ conditionsFor b m.entries
  · simp [hnever]
  · rw [if_neg hnever]
    cases h : (m.relation.select (Expr.andAll (conditionsFor b m.entries))).isEmpty <;>
      simp [hnever, narrowed, eq_comm]

theorem substitute?_eq_none_iff :
  m.substitute? b = none
    ↔ .never ∈ conditionsFor b m.entries
      ∨ (m.relation.select (Expr.andAll (conditionsFor b m.entries))).isEmpty = true
  := by
  rw [substitute?_eq]
  by_cases hnever : Expr.never ∈ conditionsFor b m.entries
  · simp [hnever]
  · simp [hnever]

theorem Gives.never_notMem {row : Row} (h : m.Gives row b) :
  .never ∉ conditionsFor b m.entries
  := by
  intro hmem
  have htrue := h _ hmem
  simp at htrue

/-! ### Columns of the narrowed map -/

theorem mem_entries_narrowed {v : Variable} {t : TermMap} :
  (v, t) ∈ (m.narrowed b).entries
    ↔ (b.get? v = none ∧ (v, t) ∈ m.entries)
      ∨ ∃ u, b.get? v = some u ∧ t = .fixed u ∧ (m.terms.get? v).isSome
  := by
  rw [mem_entries_iff, mem_entries_iff]
  simp only [narrowed, build, get?_fixedTerms, mem_looseChecks]
  cases hu : b.get? v with
  | none => simp
  | some u =>
    cases ht : m.terms.get? v with
    | none => simp
    | some t' => simp [eq_comm]

theorem mem_columns_of_narrowed {c : Column} (h : c ∈ (m.narrowed b).columns) :
  c ∈ m.columns
  := by
  rw [columns, List.mem_flatMap] at h
  obtain ⟨⟨v, t⟩, ht, hc⟩ := h
  obtain ⟨-, ht⟩ | ⟨u, -, rfl, -⟩ := mem_entries_narrowed.1 ht
  · apply mem_columns_of_mem ht hc
  · simp [TermMap.columns] at hc

/-- A column that the narrowed map does not read is one of a term map whose term is given. -/
theorem mem_columns_narrowed_or {c : Column} (h : c ∈ m.columns) :
  c ∈ (m.narrowed b).columns
    ∨ ∃ v t u, (v, t) ∈ m.entries ∧ b.get? v = some u ∧ c ∈ t.columns
  := by
  rw [columns, List.mem_flatMap] at h
  obtain ⟨⟨v, t⟩, ht, hc⟩ := h
  cases hu : b.get? v with
  | none =>
    left
    have ht' : (v, t) ∈ (m.narrowed b).entries := mem_entries_narrowed.2 (Or.inl ⟨hu, ht⟩)
    apply mem_columns_of_mem ht' hc
  | some u =>
    right
    use v, t, u, ht, hu, hc

/-! ### Bindings of the narrowed map -/

section

variable {db : Database}

/-- The narrowed map has the conditions of the binding, on the same tables. -/
theorem selects_narrowed (hm : m.WellFormed) (hnever : .never ∉ conditionsFor b m.entries)
    (he : (m.relation.select (Expr.andAll (conditionsFor b m.entries))).isEmpty = false) :
  m.relation.Selects (m.narrowed b).relation (Expr.andAll (conditionsFor b m.entries))
    ∧ (m.narrowed b).relation.tables = m.relation.tables
    ∧ m.relation.projections = canonical m.columns
    ∧ (m.narrowed b).relation.projections = canonical (m.narrowed b).columns
  := by
  have hselects := (Relation.selects_select he).1.project he
    ((m.fixedTerms b).values.flatMap TermMap.columns
      ++ (m.looseChecks b).flatMap fun c => c.2.columns)
  have hs : (m.narrowed b).relation.projections = canonical (m.narrowed b).columns :=
    projections_build he _ _
  have hr : m.relation.projections = canonical m.columns :=
    hm.projections (Relation.isEmpty_eq_false_of_select he)
  use hselects
  constructor
  · apply hselects.tables_eq
    · intro c hc
      rw [show (Relation.project _ _).projections = _ from hs, mem_canonical] at hc
      rw [hr, mem_canonical]
      apply mem_columns_of_narrowed hc
    · intro c hc
      rw [hr, mem_canonical]
      apply readsOnly_conditionsFor b m c hc
    · intro c hc
      rw [hr, mem_canonical] at hc
      obtain hc | ⟨v, t, u, ht, hu, hc⟩ := mem_columns_narrowed_or hc
      · left
        rw [show (Relation.project _ _).projections = _ from hs, mem_canonical]
        apply hc
      · right
        apply mem_columnList_conditionsFor hnever ht hu hc
  · use hr, hs

theorem WellFormed.narrowed (hm : m.WellFormed) (b : Binding) :
  (m.narrowed b).WellFormed
  := by
  apply wellFormed_build
  intro c hc
  rw [get?_fixedTerms, Option.isSome_map]
  apply hm.checked c (mem_looseChecks.1 hc).1

/-- The narrowed map is well-formed, and has no limits either. -/
theorem Narrowable.of_substitute? (hm : m.Narrowable db) {s : SolutionMap}
    (hs : m.substitute? b = some s) :
  s.WellFormed ∧ s.relation.limit = none ∧ s.relation.limitInverse = none
  := by
  obtain ⟨hnever, he, rfl⟩ := substitute?_eq_some_iff.1 hs
  obtain ⟨hselects, -⟩ := selects_narrowed hm.wellFormed hnever he
  use hm.wellFormed.narrowed b
  use hselects.limit.trans hm.limit, hselects.limitInverse.trans hm.limitInverse

/-- The rows of the narrowed map are those that give the terms of the binding. -/
theorem perm_answer_narrowed (hm : m.Narrowable db) (hnever : .never ∉ conditionsFor b m.entries)
    (he : (m.relation.select (Expr.andAll (conditionsFor b m.entries))).isEmpty = false)
    {rows rows' : List Row} (hrows : db.answer ⟨m.relation⟩ = .ok rows)
    (hrows' : db.answer ⟨(m.narrowed b).relation⟩ = .ok rows') :
  rows'.Perm
    ((rows.filter fun row =>
        Expr.truthOn row (Expr.andAll (conditionsFor b m.entries)) = some true).map
      (Relation.reread (m.narrowed b).relation.projections))
  := by
  obtain ⟨hselects, htables, hr, hs⟩ := selects_narrowed hm.wellFormed hnever he
  obtain ⟨envs, henvs, hhas, rfl⟩ := (Database.answer_eq_ok hm.limit hm.limitInverse).1 hrows
  obtain ⟨envs', henvs', -, rfl⟩ :=
    (Database.answer_eq_ok (hselects.limit.trans hm.limit)
      (hselects.limitInverse.trans hm.limitInverse)).1 hrows'
  apply hselects.perm_rowsOf htables (isCondition_conditionsFor b m) _ _ _ henvs hhas henvs'
  · intro c hc
    rw [hr, mem_canonical]
    apply readsOnly_conditionsFor b m c hc
  · intro c hc
    rw [hs, mem_canonical] at hc
    rw [hr, mem_canonical]
    apply mem_columns_of_narrowed hc
  · apply hm.distinct.imp_right
    intro hinjective row row' hrow hrow' hagree c hc
    rw [← gives_iff_truthOn, gives_iff] at hrow hrow'
    rw [hr, mem_canonical] at hc
    obtain hc | ⟨v, t, u, ht, hu, hc⟩ := mem_columns_narrowed_or hc
    · apply hagree
      rw [hs, mem_canonical]
      apply hc
    · -- an injective term map has one text for the term, so its columns have one text each
      apply TermMap.get?_eq_of_truthOn_conditionFor (hinjective _ ht) (hrow v t u ht hu)
        (hrow' v t u ht hu) hc

/-- Where the narrowed map gives a row, it gives what the map gives. -/
theorem make?_reread_narrowed (hm : m.WellFormed) (hnever : .never ∉ conditionsFor b m.entries)
    (he : (m.relation.select (Expr.andAll (conditionsFor b m.entries))).isEmpty = false)
    {row : Row} (hrow : m.Gives row b) :
  (m.narrowed b).make? (Relation.reread (m.narrowed b).relation.projections row) = m.make? row
  := by
  obtain ⟨-, -, -, hs⟩ := selects_narrowed hm hnever he
  rw [← make?_narrowed hm.checked hrow (m.narrowed b).relation]
  apply make?_congr
  intro c hc
  apply Relation.get?_reread
  rw [hs, mem_canonical]
  apply hc

/-- The compatible bindings are found on the rows that give the terms of the binding. -/
theorem filter_compatible_eq (hm : m.Narrowable db) {rows : List Row}
    (hrows : db.answer ⟨m.relation⟩ = .ok rows) :
  (rows.filterMap m.make?).filter (·.compatible b)
    = ((rows.filter fun row =>
        Expr.truthOn row (Expr.andAll (conditionsFor b m.entries)) = some true).filterMap
          m.make?).filter (·.compatible b)
  := by
  rw [List.filterMap_filter, List.filter_filterMap, List.filter_filterMap]
  apply List.filterMap_congr
  intro row hrow
  split
  · rfl
  · rename_i hfalse
    rw [Option.filter_none, Option.filter_eq_none_iff]
    intro x hx hcompatible
    apply hfalse
    rw [decide_eq_true_iff, ← gives_iff_truthOn]
    apply gives_of_make? hm.wellFormed hm.lowerCase (hm.unambiguous rows hrows row hrow) hx
      hcompatible

/-- Without columns, the conditions of a binding are true or false. -/
theorem andAll_conditionsFor_of_fixed (h : ∀ e ∈ m.entries, ∃ t, e.2 = .fixed t)
    (hnever : .never ∉ conditionsFor b m.entries) :
  Expr.andAll (conditionsFor b m.entries) = .always
  := by
  apply Expr.andAll_eq_always
  intro e he
  obtain ⟨v, t, u, ht, -, rfl⟩ := mem_conditionsFor.1 he
  obtain ⟨t', rfl⟩ := h _ ht
  rw [TermMap.conditionFor, Expr.ofBool] at he ⊢
  split
  · rfl
  · rename_i hne
    rw [if_neg hne] at he
    contradiction

/-- No row gives the terms of a binding to which the map can not be narrowed. -/
theorem not_gives_of_substitute?_eq_none (hm : m.Narrowable db) (hs : m.substitute? b = none)
    (he : m.isEmpty = false) {rows : List Row} (hrows : db.answer ⟨m.relation⟩ = .ok rows)
    {row : Row} (hrow : row ∈ rows) :
  ¬ m.Gives row b
  := by
  intro hgives
  have hempty := (substitute?_eq_none_iff.1 hs).resolve_left hgives.never_notMem
  obtain ⟨envs, henvs, hhas, rfl⟩ := (Database.answer_eq_ok hm.limit hm.limitInverse).1 hrows
  obtain ⟨env, henv, rfl⟩ := Database.mem_rowsOf.1 hrow
  have hreads : Expr.ReadsOnly m.relation.projections
      (Expr.andAll (conditionsFor b m.entries)) := by
    intro c hc
    rw [hm.wellFormed.projections he, mem_canonical]
    apply readsOnly_conditionsFor b m c hc
  apply Relation.not_isTrueOn_of_isEmpty_select hempty env
  use (Database.isTrueOn_fullCondition.1 (Database.isTrueOn_of_mem_readEnvs henvs henv)).2
  rw [Expr.isTrueOn_of_readsOnly (isCondition_conditionsFor b m) hreads (hhas env henv),
    ← gives_iff_truthOn.1 hgives]
  apply Expr.truthOn_congr
  intro c hc
  apply (get?_rowOf_of_mem env (hreads c hc)).symm

/-- A map that can not be narrowed to a binding gives no binding that is compatible with it. -/
theorem filter_compatible_of_substitute?_eq_none (hm : m.Narrowable db)
    (hs : m.substitute? b = none) {xs : List Binding} (hxs : m.bindings db = .ok xs) :
  xs.filter (·.compatible b) = []
  := by
  rw [bindings] at hxs
  split at hxs
  · cases hxs
    rfl
  · rename_i he
    rw [Bool.not_eq_true] at he
    split at hxs
    · rename_i hdatabase
      cases hxs
      have hfixed := hm.database.resolve_left (by simpa using hdatabase)
      rw [List.filter_eq_nil_iff]
      intro x hx hcompatible
      rw [Option.mem_toList] at hx
      have hgives : m.Gives Row.empty b := by
        apply gives_of_make? hm.wellFormed hm.lowerCase _ hx hcompatible
        intro e he
        obtain ⟨t, ht⟩ := hfixed e he
        rw [ht]
        apply True.intro
      have hempty := (substitute?_eq_none_iff.1 hs).resolve_left hgives.never_notMem
      rw [andAll_conditionsFor_of_fixed hfixed hgives.never_notMem, Relation.select, if_pos rfl,
        show m.relation.isEmpty = false from he] at hempty
      cases hempty
    · obtain ⟨rows, hrows, rfl⟩ := map_eq_ok.1 hxs
      rw [filter_compatible_eq hm hrows, show rows.filter _ = [] from List.filter_eq_nil_iff.2 _]
      · rfl
      · intro row hrow htrue
        rw [decide_eq_true_iff, ← gives_iff_truthOn] at htrue
        apply not_gives_of_substitute?_eq_none hm hs he hrows hrow htrue

/-- A map and the map that is narrowed to a binding give the same bindings that are compatible
with it. -/
theorem perm_filter_compatible (hm : m.Narrowable db) {s : SolutionMap}
    (hs : m.substitute? b = some s) {xs ys : List Binding} (hxs : m.bindings db = .ok xs)
    (hys : s.bindings db = .ok ys) :
  (ys.filter (·.compatible b)).Perm (xs.filter (·.compatible b))
  := by
  obtain ⟨hnever, he, rfl⟩ := substitute?_eq_some_iff.1 hs
  obtain ⟨hselects, -⟩ := selects_narrowed hm.wellFormed hnever he
  have hempty : m.isEmpty = false := by
    rw [Bool.eq_false_iff]
    intro hempty
    rw [Relation.isEmpty_select_of_isEmpty hempty] at he
    cases he
  have hempty' : (m.narrowed b).isEmpty = false := by
    rw [← he]
    apply Relation.isEmpty_project
  rw [bindings, hempty, if_neg Bool.false_ne_true] at hxs
  rw [bindings, hempty', if_neg Bool.false_ne_true, hselects.database] at hys
  split at hxs
  · rename_i hdatabase
    rw [if_pos hdatabase] at hys
    cases hxs
    cases hys
    have hfixed := hm.database.resolve_left (by simpa using hdatabase)
    have hgives : m.Gives Row.empty b := by
      rw [gives_iff_truthOn, andAll_conditionsFor_of_fixed hfixed hnever]
      rfl
    rw [← make?_narrowed hm.wellFormed.checked hgives (m.narrowed b).relation]
    rfl
  · rename_i hdatabase
    rw [if_neg hdatabase] at hys
    obtain ⟨rows, hrows, rfl⟩ := map_eq_ok.1 hxs
    obtain ⟨rows', hrows', rfl⟩ := map_eq_ok.1 hys
    rw [filter_compatible_eq hm hrows]
    apply List.Perm.filter
    apply ((perm_answer_narrowed hm hnever he hrows hrows').filterMap _).trans
    rw [List.filterMap_map]
    apply List.Perm.of_eq
    apply List.filterMap_congr
    intro row hrow
    apply make?_reread_narrowed hm.wellFormed hnever he
    simpa [gives_iff_truthOn] using (List.mem_filter.1 hrow).2

end

end RelGraph.Mapping.SolutionMap
