import RelGraph.Proofs.Mapping.Cells
import RelGraph.Proofs.Mapping.Made
import RelGraph.Proofs.Sql.Restriction

/-!
# Triple maps of a pattern

A triple map is restricted to the terms of a pattern by a condition, and the columns that only gave
these terms are not read any more.  The picks in the restricted triple map are those in the triple map
under the condition.
-/

namespace RelGraph.Mapping

open Rdf Sql

/-! ### Renamed term maps -/

theorem ValueMap.rename_congr {f g : Column → Column} {v : ValueMap}
    (h : ∀ c ∈ v.columns, f c = g c) :
  v.rename f = v.rename g
  := by
  cases v with
  | column c => simp [rename, h c (by simp [columns])]
  | template t =>
    simp only [rename, Template.rename]
    congr 2
    apply List.map_congr_left
    intro s hs
    rw [h s.column (List.mem_map_of_mem hs)]
  | blankKey k =>
    simp only [rename, BlankKey.rename]
    congr 2
    apply List.map_congr_left
    apply h

theorem TermMap.rename_congr {f g : Column → Column} {m : TermMap}
    (h : ∀ c ∈ m.columns, f c = g c) :
  m.rename f = m.rename g
  := by
  cases m with
  | fixed t => rfl
  | typed kind value => rw [rename, rename, ValueMap.rename_congr h]

theorem TermMap.rename_id (m : TermMap) :
  m.rename id = m
  := by
  rcases m with t | ⟨kind, c | t | k⟩ <;>
    simp [rename, ValueMap.rename, Template.rename, BlankKey.rename]

/-! ### Conditions are built -/

theorem ValueMap.normal_conditionFor (v : ValueMap) (text : String) :
  (v.conditionFor text).Normal
  := by
  obtain h | ⟨values, -, h⟩ := conditionFor_cases v text
  · rw [h]
    apply Expr.Normal.never
  · rw [h]
    apply Expr.normal_andAll
    intro e he
    obtain ⟨c, -, value, rfl⟩ := mem_zipWith_columnIs he
    apply Expr.normal_equalOf (.column c) (.constant value)

theorem TermMap.normal_conditionFor (m : TermMap) (t : Term) :
  (m.conditionFor t).Normal
  := by
  cases m with
  | fixed t' =>
    rw [conditionFor, Expr.ofBool.eq_def]
    split
    · apply Expr.Normal.always
    · apply Expr.Normal.never
  | typed kind value =>
    apply Expr.normal_orAll
    rw [List.forall_mem_map]
    intro text _
    apply ValueMap.normal_conditionFor

/-! ### Restriction to a pattern -/

namespace TripleMap

/-- The condition under which a term map gives the term of a position. -/
def positionCondition (x : Position) (t : TermMap) : Expr := (x.term?.map t.conditionFor).getD .always

/-- The term map that is left at a position. -/
def atPosition (x : Position) (t : TermMap) : TermMap := (x.term?.map TermMap.fixed).getD t

/-- The positions of a pattern with the term maps. -/
def places (m : TripleMap) (p : TriplePattern) : List (Position × TermMap) :=
  p.positions.zip m.termMaps

/-- The condition under which a triple map gives the terms of a pattern. -/
def conditionFor (m : TripleMap) (p : TriplePattern) : Expr :=
  Expr.andAll ((m.places p).map fun q => positionCondition q.1 q.2)

section

variable {m s : TripleMap} {p : TriplePattern}

theorem termMaps_eq (m : TripleMap) (p : TriplePattern) :
  m.termMaps = (m.places p).map (·.2)
  := rfl

theorem selectPosition?_eq (x : Position) (t : TermMap) :
  selectPosition? t x.term?
    = if positionCondition x t = .never then none
      else some (atPosition x t, positionCondition x t)
  := by
  cases x <;> rfl

theorem isEmpty_select_never (r : Relation) :
  (r.select .never).isEmpty = true
  := by
  simp [Relation.select, Expr.andAll, Relation.isEmpty, Relation.empty]

/-- A triple map has triples of a pattern unless it has no rows under the condition. -/
theorem selectPattern?_eq (m : TripleMap) (p : TriplePattern) :
  m.selectPattern? p
    = if (m.relation.select (m.conditionFor p)).isEmpty then none
      else some (ofRelation (m.relation.select (m.conditionFor p))
        (atPosition p.subject m.subject) (atPosition p.predicate m.predicate)
        (atPosition p.object m.object))
  := by
  have hempty : ∀ q ∈ m.places p, positionCondition q.1 q.2 = .never
      → (m.relation.select (m.conditionFor p)).isEmpty = true := by
    intro q hq hnever
    have hmem : .never ∈ (m.places p).map fun q => positionCondition q.1 q.2 := by
      rw [← hnever]
      apply List.mem_map_of_mem (f := fun q => positionCondition q.1 q.2) hq
    rw [conditionFor, Expr.andAll, if_pos hmem, isEmpty_select_never]
  rw [selectPattern?, select?, selectPosition?_eq, selectPosition?_eq, selectPosition?_eq]
  by_cases hs : positionCondition p.subject m.subject = .never
  · simp [hs, hempty (p.subject, m.subject) (by simp [places, TriplePattern.positions, termMaps]) hs]
  · by_cases hp : positionCondition p.predicate m.predicate = .never
    · simp [hs, hp,
        hempty (p.predicate, m.predicate) (by simp [places, TriplePattern.positions, termMaps]) hp]
    · by_cases ho : positionCondition p.object m.object = .never
      · simp [hs, hp, ho,
          hempty (p.object, m.object) (by simp [places, TriplePattern.positions, termMaps]) ho]
      · simp [hs, hp, ho, conditionFor, places, TriplePattern.positions, termMaps]

theorem isCondition_positionCondition (x : Position) (t : TermMap) :
  (positionCondition x t).isCondition = true
  := by
  cases x with
  | term u => apply TermMap.isCondition_conditionFor
  | _ => rfl

theorem normal_positionCondition (x : Position) (t : TermMap) :
  (positionCondition x t).Normal
  := by
  cases x with
  | term u => apply TermMap.normal_conditionFor
  | _ => apply Expr.Normal.always

/-- A column is still read, or the condition of its position mentions it. -/
theorem mem_columns_atPosition {x : Position} {t : TermMap} (h : positionCondition x t ≠ .never)
    {c : Column} :
  c ∈ t.columns ↔ c ∈ (atPosition x t).columns ∨ c ∈ (positionCondition x t).columnList
  := by
  cases x with
  | term u =>
    constructor
    · intro hc
      right
      apply TermMap.mem_columnList_conditionFor h hc
    · rintro (hc | hc)
      · cases hc
      · apply TermMap.readsOnly_conditionFor t u c hc
  | _ => simp [atPosition, positionCondition, Position.term?, Expr.columnList]

/-- The condition is true where every position with a term has the condition of this term. -/
theorem holdsAt_conditionFor_iff {cells : Column → Cell} :
  Expr.HoldsAt cells (m.conditionFor p)
    ↔ ∀ u t, (.term u, t) ∈ m.places p → Expr.HoldsAt cells (t.conditionFor u)
  := by
  rw [conditionFor, Expr.holdsAt_andAll, List.forall_mem_map]
  constructor
  · intro h u t hq
    apply h (.term u, t) hq
  · rintro h ⟨x, t⟩ hq
    cases x with
    | term u => apply h u t hq
    | _ => apply Expr.holdsAt_always

/-- The triple map that is restricted to a pattern. -/
def restricted (m : TripleMap) (p : TriplePattern) : TripleMap :=
  ofRelation (m.relation.select (m.conditionFor p)) (atPosition p.subject m.subject)
    (atPosition p.predicate m.predicate) (atPosition p.object m.object)

theorem termMaps_restricted (m : TripleMap) (p : TriplePattern) :
  (m.restricted p).termMaps = (m.places p).map fun q => atPosition q.1 q.2
  := rfl

/-- A triple map that reads the columns of its term maps, and all the rows. -/
structure Sound (m : TripleMap) : Prop where
  made : m.Made
  sound : m.relation.Sound

/-- A triple map that can be read: it reads the columns of its term maps, all rows are read, and its
condition is built by the simplifying constructors. -/
structure Readable (m : TripleMap) : Prop extends m.Sound where
  built : m.relation.condition.Built

section

variable (hm : m.Sound) (he : (m.relation.select (m.conditionFor p)).isEmpty = false)

include he

theorem isEmpty_restricted :
  (m.restricted p).relation.isEmpty = false
  := by
  rw [restricted, ofRelation, Relation.isEmpty_project]
  apply he

theorem mem_projections_restricted {c : Column} :
  c ∈ (m.restricted p).relation.projections ↔ c ∈ (m.restricted p).columns
  := mem_projections_ofRelation (isEmpty_restricted he)

/-- A column that is read is still read, or the condition mentions it. -/
theorem Made.mem_projections_restricted (hm : m.Made) {c : Column} :
  c ∈ m.relation.projections ↔ c ∈ (m.restricted p).columns ∨ c ∈ (m.conditionFor p).columnList
  := by
  have hnever : .never ∉ (m.places p).map fun q => positionCondition q.1 q.2 := by
    apply Expr.never_notMem_of_andAll_ne
    intro hnever
    rw [conditionFor, hnever, isEmpty_select_never] at he
    cases he
  rw [hm.mem_projections_iff (Relation.isEmpty_eq_false_of_select he), columns, columns,
    termMaps_restricted, termMaps_eq m p, conditionFor, Expr.mem_columnList_andAll hnever]
  simp only [List.mem_flatMap, List.mem_map, exists_exists_and_eq_and, ← exists_or,
    ← and_or_left]
  apply exists_congr
  intro q
  rw [and_congr_right_iff]
  intro hq
  apply mem_columns_atPosition
  intro heq
  apply hnever
  rw [← heq]
  apply List.mem_map_of_mem (f := fun q => positionCondition q.1 q.2) hq

include hm

/-- The restricted triple map has the rows of the triple map under the condition. -/
theorem restricts_restricted :
  m.relation.Restricts (m.restricted p).relation (m.conditionFor p)
  := by
  have hcolumns : ∀ {c}, c ∈ (atPosition p.subject m.subject).columns
      ++ (atPosition p.predicate m.predicate).columns ++ (atPosition p.object m.object).columns
      ↔ c ∈ (m.restricted p).columns := by
    simp [columns, restricted, ofRelation, termMaps]
  apply Relation.restricts_project hm.sound
  · apply Expr.isCondition_andAll
    rw [List.forall_mem_map]
    intro q _
    apply isCondition_positionCondition
  · intro c hc
    rw [hm.made.mem_projections_restricted he]
    exact .inr hc
  · intro c hc
    rw [hm.made.mem_projections_restricted he]
    exact .inl (hcolumns.1 hc)
  · intro c hc
    rw [hm.made.mem_projections_restricted he] at hc
    apply hc.imp_left hcolumns.2
  · apply he

omit hm

theorem normal_restricted (hbuilt : m.relation.condition.Built) :
  (m.restricted p).relation.condition.Normal
  := by
  have hcondition : (m.conditionFor p).Normal := by
    apply Expr.normal_andAll
    rw [List.forall_mem_map]
    intro q _
    apply normal_positionCondition
  have heq : (m.restricted p).relation.condition
      = (m.relation.select (m.conditionFor p)).condition := by
    rw [restricted, ofRelation, Relation.project_of_not_isEmpty he]
  rw [heq]
  obtain heq | ⟨-, heq⟩ := Relation.condition_select he
  · rw [heq]
    apply Expr.normal_andAll
    simp [hcondition, hbuilt.normal]
  · rw [heq]
    apply hbuilt.normal

end

end

end TripleMap

end RelGraph.Mapping
