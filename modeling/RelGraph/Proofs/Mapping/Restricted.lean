import RelGraph.Proofs.Mapping.TripleMap

/-!
# Triple maps that are restricted to given terms

A row on which the condition of a restricted triple map is true gives the triple that it gave before,
and this triple has the given terms.  On rows on which the term maps are unambiguous the converse
holds as well.
-/

namespace RelGraph.Mapping

open Rdf Sql

/-! ### Conditions without columns -/

/-- The condition is always true or never. -/
def IsConstant (e : Expr) : Prop := e = .always ∨ e = .never

theorem isConstant_andAll {es : List Expr} (h : ∀ e ∈ es, IsConstant e) :
  IsConstant (Expr.andAll es)
  := by
  by_cases hnever : Expr.never ∈ es
  · right
    rw [Expr.andAll, if_pos hnever]
  · left
    apply Expr.andAll_eq_always
    intro e he
    apply (h e he).resolve_right
    rintro rfl
    contradiction

theorem isConstant_orAll {es : List Expr} (h : ∀ e ∈ es, IsConstant e) :
  IsConstant (Expr.orAll es)
  := by
  by_cases halways : Expr.always ∈ es
  · left
    rw [Expr.orAll, if_pos halways]
  · right
    apply Expr.orAll_eq_never
    intro e he
    apply (h e he).resolve_left
    rintro rfl
    contradiction

theorem TermMap.isConstant_conditionFor {tm : TermMap} (h : tm.columns = []) (u : Term) :
  IsConstant (tm.conditionFor u)
  := by
  cases tm with
  | fixed t =>
    rw [conditionFor, Expr.ofBool]
    split
    · exact .inl rfl
    · exact .inr rfl
  | typed kind value =>
    apply isConstant_orAll
    rw [List.forall_mem_map]
    intro text _
    obtain hnever | ⟨values, -, heq⟩ := ValueMap.conditionFor_cases value text
    · exact .inr hnever
    · left
      rw [heq, show value.columns = [] from h]
      rfl

namespace TripleMap

/-! ### Triples of rows -/

/-- The triple has the given terms. -/
def Has (t : Triple) (s p o : Option Term) : Prop :=
  (∀ u ∈ s, t.subject.toTerm = u) ∧ (∀ u ∈ p, .iri t.predicate = u) ∧ ∀ u ∈ o, t.object = u

/-- The position with a given term, or with a variable. -/
def positionOf : Option Term → Position
  | some t => .term t
  | none => .variable ⟨""⟩

/-- The pattern of the triples with given terms. -/
def patternOf (s p o : Option Term) : TriplePattern := ⟨positionOf s, positionOf p, positionOf o⟩

theorem select?_eq (m : TripleMap) (s p o : Option Term) :
  m.select? s p o = m.selectPattern? (patternOf s p o)
  := by
  have hterm : ∀ t, (positionOf t).term? = t := by
    intro t
    cases t <;> rfl
  simp only [selectPattern?, patternOf, hterm]

section

variable {m : TripleMap} {row : Row} {t : Triple} {s p o : Option Term}

theorem make?_eq_some_iff :
  m.make? row = some t
    ↔ m.subject.make? row = some t.subject.toTerm ∧ m.predicate.make? row = some (.iri t.predicate)
      ∧ m.object.make? row = some t.object
  := by
  simp only [make?, Option.bind_eq_bind, Option.bind_eq_some_iff, Triple.ofTerms?_eq_some_iff]
  constructor
  · rintro ⟨_, hs, _, hp, _, ho, rfl, rfl, rfl⟩
    use hs, hp
  · rintro ⟨hs, hp, ho⟩
    use t.subject.toTerm, hs, .iri t.predicate, hp, t.object, ho

theorem truthOn_positionCondition {x : Option Term} {tm : TermMap} :
  Expr.truthOn row (positionCondition (positionOf x) tm) = some true
    ↔ ∀ u ∈ x, Expr.truthOn row (tm.conditionFor u) = some true
  := by
  cases x <;> simp [positionCondition, positionOf, Position.term?]

theorem truthOn_conditionFor_patternOf :
  Expr.truthOn row (m.conditionFor (patternOf s p o)) = some true
    ↔ (∀ u ∈ s, Expr.truthOn row (m.subject.conditionFor u) = some true)
      ∧ (∀ u ∈ p, Expr.truthOn row (m.predicate.conditionFor u) = some true)
      ∧ ∀ u ∈ o, Expr.truthOn row (m.object.conditionFor u) = some true
  := by
  rw [conditionFor, Expr.truthOn_andAll_eq_true, List.forall_mem_map, ← truthOn_positionCondition,
    ← truthOn_positionCondition, ← truthOn_positionCondition]
  simp [places, termMaps, TriplePattern.positions, patternOf]

theorem make?_atPosition {x : Option Term} {tm : TermMap}
    (h : ∀ u ∈ x, Expr.truthOn row (tm.conditionFor u) = some true) :
  (atPosition (positionOf x) tm).make? row = tm.make? row
  := by
  cases x with
  | none => rfl
  | some u => apply (TermMap.make?_of_truthOn_conditionFor (h u rfl)).symm

/-- A row on which the condition is true gives the same triple after the restriction. -/
theorem make?_restricted
    (h : Expr.truthOn row (m.conditionFor (patternOf s p o)) = some true) :
  (m.restricted (patternOf s p o)).make? row = m.make? row
  := by
  obtain ⟨hs, hp, ho⟩ := truthOn_conditionFor_patternOf.1 h
  apply Option.ext
  intro t
  rw [make?_eq_some_iff, make?_eq_some_iff, restricted, ofRelation]
  simp only [patternOf, make?_atPosition hs, make?_atPosition hp, make?_atPosition ho]

/-- A row on which the condition is true gives a triple with the given terms. -/
theorem has_of_truthOn (h : Expr.truthOn row (m.conditionFor (patternOf s p o)) = some true)
    (ht : m.make? row = some t) :
  Has t s p o
  := by
  obtain ⟨hs, hp, ho⟩ := truthOn_conditionFor_patternOf.1 h
  rw [make?_eq_some_iff] at ht
  constructor
  · intro u hu
    apply Option.some.inj
    rw [← ht.1, TermMap.make?_of_truthOn_conditionFor (hs u hu)]
  · constructor
    · intro u hu
      apply Option.some.inj
      rw [← ht.2.1, TermMap.make?_of_truthOn_conditionFor (hp u hu)]
    · intro u hu
      apply Option.some.inj
      rw [← ht.2.2, TermMap.make?_of_truthOn_conditionFor (ho u hu)]

/-- On a row that gives a triple with the given terms the condition is true. -/
theorem truthOn_of_has (hlower : ∀ tm ∈ m.termMaps, tm.LowerCase)
    (hrow : ∀ tm ∈ m.termMaps, tm.Unambiguous row) (ht : m.make? row = some t)
    (h : Has t s p o) :
  Expr.truthOn row (m.conditionFor (patternOf s p o)) = some true
  := by
  have htrue : ∀ tm ∈ m.termMaps, ∀ u, tm.make? row = some u
      → Expr.truthOn row (tm.conditionFor u) = some true := by
    intro tm htm u hu
    apply TermMap.truthOn_conditionFor_of_make? (hlower tm htm) (hrow tm htm) hu
  rw [make?_eq_some_iff] at ht
  obtain ⟨hs, hp, ho⟩ := h
  rw [truthOn_conditionFor_patternOf]
  constructor
  · intro u hu
    apply htrue m.subject (by simp [termMaps])
    rw [ht.1, hs u hu]
  · constructor
    · intro u hu
      apply htrue m.predicate (by simp [termMaps])
      rw [ht.2.1, hp u hu]
    · intro u hu
      apply htrue m.object (by simp [termMaps])
      rw [ht.2.2, ho u hu]

end

/-! ### Rows of restricted triple maps -/

section

variable {m : TripleMap} {p : TriplePattern}

theorem isCondition_conditionFor (m : TripleMap) (p : TriplePattern) :
  (m.conditionFor p).isCondition = true
  := by
  apply Expr.isCondition_andAll
  rw [List.forall_mem_map]
  intro q _
  apply isCondition_positionCondition

theorem Made.readsOnly_conditionFor (hm : m.Made) (he : m.relation.isEmpty = false)
    (p : TriplePattern) :
  Expr.ReadsOnly m.relation.projections (m.conditionFor p)
  := by
  apply Expr.readsOnly_andAll
  rw [List.forall_mem_map]
  rintro ⟨x, tm⟩ hq
  cases x with
  | term u =>
    intro c hc
    rw [hm.mem_projections_iff he, columns, List.mem_flatMap]
    use tm
    constructor
    · rw [termMaps_eq m p]
      apply List.mem_map_of_mem (f := Prod.snd) hq
    · apply TermMap.readsOnly_conditionFor tm u c hc
  | _ => apply Expr.readsOnly_always

/-- A triple map that reads what it needs is restricted by one more condition on the same tables. -/
theorem Made.selects_restricted (hm : m.Made)
    (he : (m.relation.select (m.conditionFor p)).isEmpty = false) :
  m.relation.Selects (m.restricted p).relation (m.conditionFor p)
    ∧ (m.restricted p).relation.tables = m.relation.tables
    ∧ ∀ c ∈ (m.restricted p).relation.projections, c ∈ m.relation.projections
  := by
  have hselects : m.relation.Selects (m.restricted p).relation (m.conditionFor p) :=
    (Relation.selects_select he).1.project he _
  have hsub : ∀ c ∈ (m.restricted p).relation.projections, c ∈ m.relation.projections := by
    intro c hc
    rw [hm.mem_projections_restricted he]
    exact .inl ((TripleMap.mem_projections_restricted he).1 hc)
  use hselects
  constructor
  · apply hselects.tables_eq hsub
    · intro c hc
      rw [hm.mem_projections_restricted he]
      exact .inr hc
    · intro c hc
      rw [hm.mem_projections_restricted he] at hc
      apply hc.imp_left (TripleMap.mem_projections_restricted he).2
  · apply hsub

/-- Without columns, the condition of a pattern is always true or never. -/
theorem isConstant_conditionFor (h : m.columns = []) :
  IsConstant (m.conditionFor p)
  := by
  apply isConstant_andAll
  rw [List.forall_mem_map]
  rintro ⟨x, tm⟩ hq
  cases x with
  | term u =>
    apply TermMap.isConstant_conditionFor
    rw [columns, List.flatMap_eq_nil_iff] at h
    apply h
    rw [termMaps_eq m p]
    apply List.mem_map_of_mem (f := Prod.snd) hq
  | _ => exact .inl rfl

/-- The columns that are read are those of the term maps, in the order of columns. -/
theorem Made.projections_eq (h : m.Made) (he : m.relation.isEmpty = false) :
  m.relation.projections = canonical m.columns
  := by
  have hcanonical : ∃ cs, m.relation.projections = canonical cs := by
    have hproject : ∀ {relation s p o},
        (TripleMap.ofRelation relation s p o).relation.isEmpty = false
        → ∃ cs, (TripleMap.ofRelation relation s p o).relation.projections = canonical cs := by
      intro relation s p o he
      rw [TripleMap.ofRelation, Relation.isEmpty_project] at he
      rw [TripleMap.ofRelation, Relation.project_of_not_isEmpty he]
      exact ⟨_, rfl⟩
    cases h with
    | ofRelation => apply hproject he
    | select _ hs =>
      rw [select?_eq, selectPattern?_eq] at hs
      split at hs
      · cases hs
      · cases hs
        apply hproject he
    | copy _ hs =>
      obtain ⟨names, -, hrename, -⟩ := columns_copy hs
      have hm := Relation.isEmpty_of_renameTables hrename he
      obtain ⟨aliases, -, hrelation⟩ := (Relation.renameTables_eq_ok hm).1 hrename
      rw [hrelation]
      exact ⟨_, rfl⟩
  obtain ⟨cs, hcs⟩ := hcanonical
  rw [hcs]
  apply canonical_congr
  intro c
  rw [← h.mem_projections_iff he, hcs, mem_canonical]

/-- A triple map to which nothing is given stays as it is. -/
theorem Made.select?_none (h : m.Made) :
  m.select? none none none = if m.relation.isEmpty then none else some m
  := by
  have hselect : m.relation.select (Expr.andAll [.always, .always, .always]) = m.relation := rfl
  simp only [select?, selectPosition?, Option.bind_eq_bind, Option.bind_some, hselect]
  split
  · rfl
  · rename_i he
    rw [Bool.not_eq_true] at he
    have hcolumns : canonical (m.subject.columns ++ m.predicate.columns ++ m.object.columns)
        = m.relation.projections := by
      rw [h.projections_eq he]
      simp [columns, termMaps]
    rw [TripleMap.ofRelation, Relation.project_of_not_isEmpty he, hcolumns]

end

end TripleMap

end RelGraph.Mapping
