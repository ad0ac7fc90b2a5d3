import RelGraph.Proofs.Sql.JoinAll

/-!
# Restricted relations

A relation to which a condition is added and of which fewer columns are read.  If every column that
is not read any more is mentioned by the condition, then the picks in the restricted relation are
those in the relation on which the condition is true.
-/

namespace RelGraph.Sql.Relation

open Expr

/-- A relation without rows is sound. -/
theorem sound_empty :
  empty.Sound
  := by
  constructor
  · rfl
  · rfl
  · rfl
  · intro j hj
    cases hj

section

variable {r : Relation} {condition : Expr}

theorem condition_select (h : (r.select condition).isEmpty = false) :
  (r.select condition).condition = andAll [r.condition, condition]
    ∨ (condition = .always ∧ (r.select condition).condition = r.condition)
  := by
  unfold select at h ⊢
  split at h
  · rename_i halways
    right
    rw [if_pos halways]
    use halways
  · rename_i halways
    left
    rw [if_neg halways]
    simp only at h ⊢
    split at h
    · simp [isEmpty, empty] at h
    · rename_i hnever
      rw [if_neg hnever]

theorem holdsAt_condition_select (h : (r.select condition).isEmpty = false)
    (cells : Column → Cell) :
  HoldsAt cells (r.select condition).condition
    ↔ HoldsAt cells r.condition ∧ HoldsAt cells condition
  := by
  obtain heq | ⟨rfl, heq⟩ := condition_select h
  · rw [heq, holdsAt_andAll]
    simp
  · rw [heq]
    simp [holdsAt_always]

theorem not_holdsAt_of_isEmpty_select (h : (r.select condition).isEmpty = true)
    (cells : Column → Cell) :
  ¬ (HoldsAt cells r.condition ∧ HoldsAt cells condition)
  := by
  rintro ⟨hr, hc⟩
  apply @not_holdsAt_never cells
  unfold select at h
  split at h
  · rw [← isEmpty_iff.1 h]
    apply hr
  · have hnever : andAll [r.condition, condition] = .never := by
      simp only at h
      split at h
      · assumption
      · apply isEmpty_iff.1 h
    rw [← hnever, holdsAt_andAll]
    simp [hr, hc]

theorem isCondition_select (hr : r.condition.isCondition = true)
    (hc : condition.isCondition = true) (h : (r.select condition).isEmpty = false) :
  (r.select condition).condition.isCondition = true
  := by
  obtain heq | ⟨-, heq⟩ := condition_select h
  · rw [heq]
    apply isCondition_andAll
    simp [hr, hc]
  · rw [heq, hr]

/-- What is known of a restricted relation. -/
structure Restricts (r s : Relation) (condition : Expr) : Prop where
  sound : s.Sound
  database : s.database = r.database
  unique : s.unique = r.unique
  tables : s.tables = r.tables
  aliases : s.aliases = r.aliases
  joins : s.joins = r.joins
  conjoined : s.condition = andAll [r.condition, condition] ∨ s.condition = r.condition
  columns : ∀ c ∈ s.columnList, c ∈ r.columnList
  holds : ∀ db pick, s.Holds db pick ↔ r.Holds db pick ∧ HoldsAt pick.cell condition

theorem restricts_self (hr : r.Sound) :
  r.Restricts r .always
  := by
  refine ⟨hr, rfl, rfl, rfl, rfl, rfl, .inr rfl, fun _ => id, ?_⟩
  intro db pick
  rw [and_iff_left holdsAt_always]

theorem Restricts.fits {s : Relation} (h : r.Restricts s condition) {db : Database}
    (hfits : r.Fits db) :
  s.Fits db
  := by
  constructor
  · rw [h.tables, h.aliases]
    apply hfits.tables
  · intro c hc
    rw [h.aliases]
    apply hfits.columns c (h.columns c hc)

/-- A relation with one more condition on the columns that are read is restricted by it. -/
theorem Selects.restricts {s : Relation} (hs : r.Selects s condition) (hr : r.Sound)
    (hc : condition.isCondition = true) (hreads : ReadsOnly r.projections condition)
    (htables : s.tables = r.tables) (hcs : ∀ c ∈ s.projections, c ∈ r.projections)
    (he : (r.select condition).isEmpty = false)
    (hcondition : s.condition = (r.select condition).condition) :
  r.Restricts s condition
  := by
  constructor
  · constructor
    · rw [hs.limit, hr.limit]
    · rw [hs.limitInverse, hr.limitInverse]
    · rw [hcondition]
      apply isCondition_select hr.isCondition hc he
    · rw [hs.joins]
      apply hr.joins
  · apply hs.database
  · apply hs.unique
  · apply htables
  · apply hs.aliases
  · apply hs.joins
  · rw [hcondition]
    apply (condition_select he).imp_right And.right
  · intro c hcol
    rw [mem_columnList_iff, hs.joins, hs.columns, hs.order] at hcol
    rw [mem_columnList_iff]
    obtain hcol | (hcol | hcol) | hcol | hcol := hcol
    · left
      apply hcol
    · right; left
      apply hcol
    · right; right; left
      apply hreads c hcol
    · right; right; left
      apply hcs c hcol
    · right; right; right
      apply hcol
  · intro db pick
    constructor
    · rintro ⟨hp, hj, hcond⟩
      rw [hcondition, holdsAt_condition_select he] at hcond
      rw [htables, hs.aliases] at hp
      rw [hs.joins] at hj
      use ⟨hp, hj, hcond.1⟩, hcond.2
    · rintro ⟨⟨hp, hj, hr⟩, hcond⟩
      constructor
      · rw [htables, hs.aliases]
        apply hp
      · rw [hs.joins]
        apply hj
      · rw [hcondition, holdsAt_condition_select he]
        use hr

/-- The tables are those of the columns that are read. -/
theorem tables_select (hreads : ReadsOnly r.projections condition)
    (he : (r.select condition).isEmpty = false) :
  (r.select condition).tables = r.tables
  := by
  obtain ⟨hselects, hprojections⟩ := selects_select he
  apply hselects.tables_eq
  · rw [hprojections]
    exact fun _ => id
  · apply hreads
  · rw [hprojections]
    intro c hcol
    left
    apply hcol

theorem restricts_select (hr : r.Sound) (hc : condition.isCondition = true)
    (hreads : ReadsOnly r.projections condition) (he : (r.select condition).isEmpty = false) :
  r.Restricts (r.select condition) condition
  := by
  obtain ⟨hselects, hprojections⟩ := selects_select he
  apply hselects.restricts hr hc hreads (tables_select hreads he) _ he rfl
  rw [hprojections]
  exact fun _ => id

/-- Columns that are not read any more have to be mentioned by the condition. -/
theorem restricts_project (hr : r.Sound) (hc : condition.isCondition = true)
    (hreads : ReadsOnly r.projections condition) {cs : List Column}
    (hcs : ∀ c ∈ cs, c ∈ r.projections)
    (hall : ∀ c ∈ r.projections, c ∈ cs ∨ c ∈ condition.columnList)
    (he : (r.select condition).isEmpty = false) :
  r.Restricts ((r.select condition).project cs) condition
  := by
  have hs := (selects_select he).1.project he cs
  have hproject := project_of_not_isEmpty he cs
  have hsub : ∀ c ∈ ((r.select condition).project cs).projections, c ∈ r.projections := by
    intro c hcol
    rw [hproject, mem_canonical] at hcol
    apply hcs c hcol
  apply hs.restricts hr hc hreads _ hsub he
  · rw [hproject]
  · apply hs.tables_eq hsub hreads
    intro c hcol
    rw [hproject, mem_canonical]
    apply hall c hcol

end

end RelGraph.Sql.Relation
