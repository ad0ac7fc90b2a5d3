import RelGraph.Mapping.SolutionMap
import RelGraph.Proofs.Mapping.TermMap
import RelGraph.Proofs.Rdf.Binding
import RelGraph.Proofs.Sql.Relation

/-!
# Bindings of solution maps

What a solution map gives on a row, and what it becomes when it is narrowed to a binding.  The
narrowed map has one condition for each term that the binding gives to one of its variables: on
the rows that fulfil all of them it gives what the map gives, and these are the rows on which the
map gives a compatible binding.
-/

namespace RelGraph.Mapping.SolutionMap

open Rdf Sql

variable {m : SolutionMap} {b : Binding} {row : Row} {v : Variable}

/-! ### Term maps -/

/-- The variables with the term maps that give or check their terms. -/
def entries (m : SolutionMap) : List (Variable × TermMap) := m.terms.entries ++ m.checks

/-- The columns of the term maps. -/
def columns (m : SolutionMap) : List Column := m.entries.flatMap fun e => e.2.columns

theorem mem_entries_iff {t : TermMap} :
  (v, t) ∈ m.entries ↔ m.terms.get? v = some t ∨ (v, t) ∈ m.checks
  := by
  rw [entries, List.mem_append, SortedMap.mem_entries_iff]

theorem mem_columns_of_mem {e : Variable × TermMap} (he : e ∈ m.entries) {c : Column}
    (hc : c ∈ e.2.columns) :
  c ∈ m.columns
  := by
  rw [columns, List.mem_flatMap]
  use e

/-- Only the columns of the term maps are read, and every check is on a variable that has a
term map. -/
structure WellFormed (m : SolutionMap) : Prop where
  projections : m.isEmpty = false → m.relation.projections = canonical m.columns
  checked : ∀ c ∈ m.checks, (m.terms.get? c.1).isSome

theorem projections_build {relation : Relation} (h : relation.isEmpty = false)
    (terms : SortedMap Variable TermMap) (checks : List (Variable × TermMap)) :
  (build relation terms checks).relation.projections
    = canonical (build relation terms checks).columns
  := by
  rw [columns, entries, List.flatMap_append, build, Relation.project_of_not_isEmpty h,
    SortedMap.values, List.flatMap_map]

theorem wellFormed_build (relation : Relation) {terms : SortedMap Variable TermMap}
    {checks : List (Variable × TermMap)} (h : ∀ c ∈ checks, (terms.get? c.1).isSome) :
  (build relation terms checks).WellFormed
  := by
  constructor
  · intro he
    apply projections_build
    rw [← he]
    apply (Relation.isEmpty_project _ _).symm
  · apply h

theorem wellFormed_trivial :
  trivial.WellFormed
  := by
  constructor
  · intro _
    rfl
  · intro c hc
    cases hc

theorem WellFormed.select (h : m.WellFormed) (condition : Expr) :
  (m.select condition).WellFormed
  := by
  constructor
  · intro he
    have hm : m.isEmpty = false := by
      rw [Bool.eq_false_iff]
      intro hm
      rw [show (m.select condition).isEmpty = true from
        Relation.isEmpty_select_of_isEmpty hm condition] at he
      cases he
    rw [show (m.select condition).relation = m.relation.select condition from rfl,
      (Relation.selects_select he).2]
    apply h.projections hm
  · apply h.checked

/-! ### Bindings of rows -/

/-- The binding of a row has the variables of the map with the terms of the row, which pass all the
checks. -/
theorem make?_eq_some_iff :
  m.make? row = some b
    ↔ (∀ v, (m.terms.get? v).isSome → (b.get? v).isSome)
      ∧ (∀ v, b.get? v = (m.terms.get? v).bind (·.make? row))
      ∧ ∀ c ∈ m.checks, b.get? c.1 = c.2.make? row
  := by
  simp only [make?, Option.bind_eq_bind, Option.bind_eq_some_iff,
    Option.ite_none_right_eq_some, Option.some.injEq, List.all_eq_true, decide_eq_true_eq]
  constructor
  · rintro ⟨terms, hterms, hchecks, rfl⟩
    have hget : ∀ v, terms.get? v = (m.terms.get? v).bind (·.make? row) :=
      SortedMap.get?_map? hterms
    constructor
    · intro v hv
      obtain ⟨t, ht⟩ := Option.isSome_iff_exists.1 hv
      have hall : (m.terms.map? fun _ t => t.make? row).isSome := by rw [hterms]; rfl
      rw [show Binding.get? ⟨terms⟩ v = terms.get? v from rfl, hget, ht]
      apply SortedMap.isSome_map?_iff.1 hall v t ht
    · use hget, hchecks
  · rintro ⟨hsome, hget, hchecks⟩
    have hall : (m.terms.map? fun _ t => t.make? row).isSome := by
      rw [SortedMap.isSome_map?_iff]
      intro v t ht
      have hv := hsome v (by rw [ht]; rfl)
      rw [hget, ht] at hv
      apply hv
    obtain ⟨terms, hterms⟩ := Option.isSome_iff_exists.1 hall
    have hb : b = ⟨terms⟩ := by
      apply Binding.ext
      intro v
      rw [hget]
      apply (SortedMap.get?_map? hterms v).symm
    subst hb
    use terms, hterms, hchecks

/-- The binding of a row depends on the columns of the term maps only. -/
theorem make?_congr {row row' : Row} (h : ∀ c ∈ m.columns, row.get? c = row'.get? c) :
  m.make? row = m.make? row'
  := by
  have hmake : ∀ e ∈ m.entries, e.2.make? row = e.2.make? row' := by
    intro e he
    apply TermMap.make?_congr
    intro c hc
    apply h c (mem_columns_of_mem he hc)
  have hterms : ∀ v, (m.terms.get? v).bind (·.make? row) = (m.terms.get? v).bind (·.make? row') := by
    intro v
    cases hv : m.terms.get? v with
    | none => rfl
    | some t => apply hmake (v, t) (mem_entries_iff.2 (Or.inl hv))
  apply Option.ext
  intro b
  rw [make?_eq_some_iff, make?_eq_some_iff]
  simp only [hterms]
  apply and_congr_right'
  apply and_congr_right'
  apply forall₂_congr
  intro c hc
  rw [hmake c (mem_entries_iff.2 (Or.inr hc))]

/-! ### Narrowing -/

/-- The term maps of the variables, of which those that a binding has are fixed. -/
def fixedTerms (m : SolutionMap) (b : Binding) : SortedMap Variable TermMap :=
  m.terms.map fun v t => ((b.get? v).map TermMap.fixed).getD t

/-- The checks on variables that a binding does not have. -/
def looseChecks (m : SolutionMap) (b : Binding) : List (Variable × TermMap) :=
  m.checks.filter fun c => (b.get? c.1).isNone

/-- The conditions under which term maps give the terms that a binding has for their variables. -/
def conditionsFor (b : Binding) (es : List (Variable × TermMap)) : List Expr :=
  es.filterMap fun e => (b.get? e.1).map e.2.conditionFor

theorem conditionsFor_cons_of_none (h : b.get? v = none) (m : TermMap)
    (es : List (Variable × TermMap)) :
  conditionsFor b ((v, m) :: es) = conditionsFor b es
  := by
  simp [conditionsFor, h]

theorem conditionsFor_cons_of_some {t : Term} (h : b.get? v = some t) (m : TermMap)
    (es : List (Variable × TermMap)) :
  conditionsFor b ((v, m) :: es) = m.conditionFor t :: conditionsFor b es
  := by
  simp [conditionsFor, h]

theorem conditionsFor_append (b : Binding) (es es' : List (Variable × TermMap)) :
  conditionsFor b (es ++ es') = conditionsFor b es ++ conditionsFor b es'
  := List.filterMap_append

theorem mem_conditionsFor {es : List (Variable × TermMap)} {c : Expr} :
  c ∈ conditionsFor b es ↔ ∃ v m t, (v, m) ∈ es ∧ b.get? v = some t ∧ m.conditionFor t = c
  := by
  simp only [conditionsFor, List.mem_filterMap, Option.map_eq_some_iff, Prod.exists]
  constructor
  · rintro ⟨v, m, hmem, t, ht, hc⟩
    use v, m, t, hmem, ht, hc
  · rintro ⟨v, m, t, hmem, ht, hc⟩
    use v, m, hmem, t, ht, hc

theorem narrowChecks?_eq (b : Binding) (cs : List (Variable × TermMap)) :
  narrowChecks? b cs
    = if .never ∈ conditionsFor b cs then none
      else some (conditionsFor b cs, cs.filter fun c => (b.get? c.1).isNone)
  := by
  induction cs with
  | nil => rfl
  | cons c cs ih =>
    obtain ⟨v, m⟩ := c
    rw [narrowChecks?, ih]
    by_cases hrest : Expr.never ∈ conditionsFor b cs
    · cases hb : b.get? v with
      | none => simp [conditionsFor_cons_of_none hb, hrest]
      | some t => simp [conditionsFor_cons_of_some hb, hrest]
    · cases hb : b.get? v with
      | none => simp [conditionsFor_cons_of_none hb, hrest, hb]
      | some t =>
        simp only [conditionsFor_cons_of_some hb, hrest, TermMap.select?, List.mem_cons]
        by_cases hnever : m.conditionFor t = .never
        · simp [hnever]
        · simp [hnever, Ne.symm hnever, hb]

/-- Narrowing the term maps of the variables fails exactly if one of the conditions is never
true. -/
theorem map?_narrow?_eq (m : SolutionMap) (b : Binding) :
  m.terms.map? (narrow? b)
    = if .never ∈ conditionsFor b m.terms.entries then none
      else some (m.terms.map fun v t =>
        (((b.get? v).map TermMap.fixed).getD t, ((b.get? v).map t.conditionFor).getD .always))
  := by
  have hnarrow : ∀ v t, narrow? b v t
      = if (b.get? v).map t.conditionFor = some .never then none
        else some (((b.get? v).map TermMap.fixed).getD t,
          ((b.get? v).map t.conditionFor).getD .always) := by
    intro v t
    rw [narrow?]
    cases b.get? v <;> simp [TermMap.select?]
  have hnever : Expr.never ∈ conditionsFor b m.terms.entries
      ↔ ∃ v t, m.terms.get? v = some t ∧ (b.get? v).map t.conditionFor = some .never := by
    rw [mem_conditionsFor]
    simp only [SortedMap.mem_entries_iff, Option.map_eq_some_iff]
    constructor
    · rintro ⟨v, t, u, ht, hu, hc⟩
      use v, t, ht, u, hu, hc
    · rintro ⟨v, t, ht, u, hu, hc⟩
      use v, t, u, ht, hu, hc
  split
  · rename_i h
    obtain ⟨v, t, ht, hc⟩ := hnever.1 h
    rw [← Option.not_isSome_iff_eq_none, SortedMap.isSome_map?_iff]
    intro hall
    have hv := hall v t ht
    rw [hnarrow, if_pos hc] at hv
    cases hv
  · rename_i h
    have hall : ∀ v t, m.terms.get? v = some t → (b.get? v).map t.conditionFor ≠ some .never := by
      intro v t ht hc
      apply h (hnever.2 ⟨v, t, ht, hc⟩)
    have hsome : (m.terms.map? (narrow? b)).isSome := by
      rw [SortedMap.isSome_map?_iff]
      intro v t ht
      rw [hnarrow, if_neg (hall v t ht)]
      rfl
    obtain ⟨narrowed, hnarrowed⟩ := Option.isSome_iff_exists.1 hsome
    rw [hnarrowed, Option.some.injEq]
    apply SortedMap.ext
    intro v
    rw [SortedMap.get?_map? hnarrowed, SortedMap.get?_map]
    cases ht : m.terms.get? v with
    | none => rfl
    | some t => rw [Option.bind_some, hnarrow, if_neg (hall v t ht), Option.map_some]

theorem filter_conditions (m : SolutionMap) (b : Binding) :
  ((m.terms.map fun v t => (((b.get? v).map TermMap.fixed).getD t,
        ((b.get? v).map t.conditionFor).getD Expr.always)).values.map (·.2)
      ++ conditionsFor b m.checks).filter (fun e => e ≠ .always)
    = (conditionsFor b m.entries).filter fun e => e ≠ .always
  := by
  rw [entries, conditionsFor_append, List.filter_append, List.filter_append, SortedMap.values,
    SortedMap.map, List.map_map, List.map_map]
  congr 1
  induction m.terms.entries with
  | nil => rfl
  | cons e es ih =>
    obtain ⟨v, t⟩ := e
    cases hb : b.get? v with
    | none =>
      rw [conditionsFor_cons_of_none hb, ← ih, List.map_cons,
        List.filter_cons_of_neg (by simp [hb])]
    | some u =>
      rw [conditionsFor_cons_of_some hb, List.map_cons, List.filter_cons, List.filter_cons, ih]
      simp [hb]

theorem substitute?_eq (m : SolutionMap) (b : Binding) :
  m.substitute? b
    = if .never ∈ conditionsFor b m.entries then none
      else if (m.relation.select (Expr.andAll (conditionsFor b m.entries))).isEmpty then none
      else some (build (m.relation.select (Expr.andAll (conditionsFor b m.entries))) (m.fixedTerms b)
        (m.looseChecks b))
  := by
  have hnever : Expr.never ∈ conditionsFor b m.entries
      ↔ Expr.never ∈ conditionsFor b m.terms.entries ∨ Expr.never ∈ conditionsFor b m.checks := by
    rw [entries, conditionsFor_append, List.mem_append]
  have hall := congrArg Expr.andAll (filter_conditions m b)
  rw [Expr.andAll_filter_ne_always, Expr.andAll_filter_ne_always] at hall
  have hfixed : (m.terms.map fun v t => (((b.get? v).map TermMap.fixed).getD t,
      ((b.get? v).map t.conditionFor).getD Expr.always)).map (fun _ p => p.1)
      = m.fixedTerms b := by
    apply SortedMap.ext
    intro v
    rw [SortedMap.get?_map, SortedMap.get?_map, fixedTerms, SortedMap.get?_map, Option.map_map]
    rfl
  rw [substitute?, map?_narrow?_eq, narrowChecks?_eq]
  by_cases hterms : Expr.never ∈ conditionsFor b m.terms.entries
  · simp [hnever, hterms]
  · by_cases hchecks : Expr.never ∈ conditionsFor b m.checks
    · simp [hnever, hterms, hchecks]
    · simp only [hnever, hterms, hchecks, if_false, or_self]
      simp only [Option.bind_eq_bind, Option.bind_some, hall, hfixed]
      rfl
theorem get?_fixedTerms (m : SolutionMap) (b : Binding) (v : Variable) :
  (m.fixedTerms b).get? v
    = (m.terms.get? v).map fun t => ((b.get? v).map TermMap.fixed).getD t
  := SortedMap.get?_map _ _ _

theorem mem_looseChecks {c : Variable × TermMap} :
  c ∈ m.looseChecks b ↔ c ∈ m.checks ∧ b.get? c.1 = none
  := by
  rw [looseChecks, List.mem_filter, Option.isNone_iff_eq_none]

/-! ### Conditions of a binding -/

/-- A row gives the terms of a binding: all the conditions are true. -/
def Gives (row : Row) (b : Binding) (m : SolutionMap) : Prop :=
  ∀ e ∈ conditionsFor b m.entries, Expr.truthOn row e = some true

theorem gives_iff :
  m.Gives row b ↔ ∀ v t u, (v, t) ∈ m.entries → b.get? v = some u
    → Expr.truthOn row (t.conditionFor u) = some true
  := by
  simp only [Gives, mem_conditionsFor]
  constructor
  · intro h v t u ht hu
    apply h _ ⟨v, t, u, ht, hu, rfl⟩
  · rintro h _ ⟨v, t, u, ht, hu, rfl⟩
    apply h v t u ht hu

theorem gives_iff_truthOn :
  m.Gives row b ↔ Expr.truthOn row (Expr.andAll (conditionsFor b m.entries)) = some true
  := Expr.truthOn_andAll_eq_true.symm

theorem isCondition_conditionsFor (b : Binding) (m : SolutionMap) :
  (Expr.andAll (conditionsFor b m.entries)).isCondition = true
  := by
  apply Expr.isCondition_andAll
  intro e he
  obtain ⟨v, t, u, -, -, rfl⟩ := mem_conditionsFor.1 he
  apply TermMap.isCondition_conditionFor

theorem readsOnly_conditionsFor (b : Binding) (m : SolutionMap) :
  Expr.ReadsOnly m.columns (Expr.andAll (conditionsFor b m.entries))
  := by
  apply Expr.readsOnly_andAll
  intro e he c hc
  obtain ⟨v, t, u, ht, -, rfl⟩ := mem_conditionsFor.1 he
  apply mem_columns_of_mem ht
  apply TermMap.readsOnly_conditionFor t u c hc

/-- The conditions mention all the columns of the term maps whose terms they are about. -/
theorem mem_columnList_conditionsFor (h : Expr.never ∉ conditionsFor b m.entries) {t : TermMap}
    {u : Term} (ht : (v, t) ∈ m.entries) (hu : b.get? v = some u) {c : Column}
    (hc : c ∈ t.columns) :
  c ∈ (Expr.andAll (conditionsFor b m.entries)).columnList
  := by
  have hmem : t.conditionFor u ∈ conditionsFor b m.entries :=
    mem_conditionsFor.2 ⟨v, t, u, ht, hu, rfl⟩
  rw [Expr.mem_columnList_andAll h]
  use t.conditionFor u, hmem
  apply TermMap.mem_columnList_conditionFor _ hc
  intro hnever
  rw [hnever] at hmem
  apply h hmem

/-- On a row that gives the terms of a binding, the narrowed map gives what the map gives. -/
theorem make?_narrowed (hm : ∀ c ∈ m.checks, (m.terms.get? c.1).isSome) (h : m.Gives row b)
    (relation : Relation) :
  SolutionMap.make? ⟨relation, m.fixedTerms b, m.looseChecks b⟩ row = m.make? row
  := by
  rw [gives_iff] at h
  -- where the binding has a term, this is the term of the row
  have hmake : ∀ v t, (v, t) ∈ m.entries → ∀ u, b.get? v = some u → t.make? row = some u := by
    intro v t ht u hu
    apply TermMap.make?_of_truthOn_conditionFor (h v t u ht hu)
  have hterms : ∀ v, ((m.fixedTerms b).get? v).bind (·.make? row)
      = (m.terms.get? v).bind (·.make? row) := by
    intro v
    rw [get?_fixedTerms]
    cases ht : m.terms.get? v with
    | none => rfl
    | some t =>
      cases hu : b.get? v with
      | none => rfl
      | some u => apply (hmake v t (mem_entries_iff.2 (Or.inl ht)) u hu).symm
  have hsome : ∀ v, ((m.fixedTerms b).get? v).isSome = (m.terms.get? v).isSome := by
    intro v
    rw [get?_fixedTerms, Option.isSome_map]
  apply Option.ext
  intro x
  rw [make?_eq_some_iff, make?_eq_some_iff]
  simp only [hterms, hsome, mem_looseChecks]
  apply and_congr_right'
  apply and_congr_right
  intro hx
  constructor
  · intro hloose c hc
    cases hu : b.get? c.1 with
    | none => apply hloose c ⟨hc, hu⟩
    | some u =>
      -- the check has the term of its variable, which is the one of the binding
      obtain ⟨t, ht⟩ := Option.isSome_iff_exists.1 (hm c hc)
      rw [hx, ht, hmake c.1 c.2 (mem_entries_iff.2 (Or.inr hc)) u hu]
      apply hmake c.1 t (mem_entries_iff.2 (Or.inl ht)) u hu
  · intro hall c hc
    apply hall c hc.1

/-- A row on which the map gives a binding that is compatible with another one gives the terms of
the other one. -/
theorem gives_of_make? (hm : m.WellFormed) (hlower : ∀ e ∈ m.entries, e.2.LowerCase)
    (hrow : ∀ e ∈ m.entries, e.2.Unambiguous row) {x b : Binding} (h : m.make? row = some x)
    (hx : x.compatible b = true) :
  m.Gives row b
  := by
  obtain ⟨hsome, hget, hchecks⟩ := make?_eq_some_iff.1 h
  rw [Binding.compatible_iff] at hx
  rw [gives_iff]
  intro v t u ht hu
  apply TermMap.truthOn_conditionFor_of_make? (hlower _ ht) (hrow _ ht)
  have hv : x.get? v = t.make? row ∧ (x.get? v).isSome := by
    rw [mem_entries_iff] at ht
    obtain ht | ht := ht
    · use by rw [hget, ht]; rfl
      apply hsome v (by rw [ht]; rfl)
    · use hchecks _ ht
      apply hsome v (hm.checked _ ht)
  obtain ⟨s, hs⟩ := Option.isSome_iff_exists.1 hv.2
  rw [← hv.1, hs, hx v s u hs hu]

end RelGraph.Mapping.SolutionMap
