import RelGraph.Proofs.Rdf.Binding
import RelGraph.Proofs.Sparql.Truth
import RelGraph.Sparql.PushDown

/-!
# Expressions depend on their variables only

Two bindings that agree on the variables of an expression give it the same value, so a condition
can be tested on any part of a solution that has all of its variables (`Expression.eval_eq_of_agree`).
-/

namespace RelGraph.Sparql.Expression

open Rdf

variable {e : Expression} {a b : Binding}

theorem variableLists_eq_flatMap (es : List Expression) :
  variableLists es = es.flatMap variableList
  := by
  induction es with
  | nil => rfl
  | cons e es ih => rw [variableLists, ih, List.flatMap_cons]

/-- Two bindings agree on some variables. -/
def Agree (a b : Binding) (vs : List Variable) : Prop :=
  ∀ v ∈ vs, a.get? v = b.get? v

theorem Agree.left {vs ws : List Variable} (h : Agree a b (vs ++ ws)) :
  Agree a b vs
  := fun v hv => h v (List.mem_append_left _ hv)

theorem Agree.right {vs ws : List Variable} (h : Agree a b (vs ++ ws)) :
  Agree a b ws
  := fun v hv => h v (List.mem_append_right _ hv)

/-- If the operands have the same values on two bindings that agree on them, so has the list. -/
theorem evalEach_congr {es : List Expression}
    (ih : ∀ e ∈ es, Agree a b e.variableList → eval a e = eval b e)
    (h : Agree a b (variableLists es)) :
  evalEach a es = evalEach b es
  := by
  rw [evalEach_eq_map, evalEach_eq_map]
  apply List.map_congr_left
  intro e he
  apply ih e he
  intro v hv
  apply h
  rw [variableLists_eq_flatMap, List.mem_flatMap]
  use e

/-- Bindings that agree on the variables of an expression give it the same value. -/
theorem eval_congr (h : Agree a b e.variableList) :
  eval a e = eval b e
  := by
  induction e with
  | iri i => rfl
  | literal l => rfl
  | variableOf v => rw [eval, eval, h v (by simp [variableList])]
  | bound v => rw [eval, eval, Binding.binds_eq, Binding.binds_eq, h v (by simp [variableList])]
  | or es ih => rw [eval, eval, evalEach_congr ih h]
  | and es ih => rw [eval, eval, evalEach_congr ih h]
  | coalesce es ih => rw [eval, eval, evalEach_congr ih h]
  | call f es ih => rw [eval, eval, evalEach_congr ih h]
  | equal x y ihx ihy => rw [eval, eval, ihx h.left, ihy h.right]
  | sameTerm x y ihx ihy => rw [eval, eval, ihx h.left, ihy h.right]
  | compare test x y ihx ihy => rw [eval, eval, ihx h.left, ihy h.right]
  | arithmetic op x y ihx ihy => rw [eval, eval, ihx h.left, ihy h.right]
  | plus e ih => rw [eval, eval, ih h]
  | minus e ih => rw [eval, eval, ih h]
  | not e ih => rw [eval, eval, ih h]
  | choose x y z ihx ihy ihz =>
    rw [eval, eval, ihx h.left.left, ihy h.left.right, ihz h.right]

theorem holds_congr (h : Agree a b e.variableList) :
  e.holds a = e.holds b
  := by
  rw [holds, holds, truthOn, truthOn, eval_congr h]

/-! ### Variables that a binding has -/

theorem closedBy_iff {vs : List Variable} :
  e.closedBy vs = true ↔ ∀ v ∈ e.variableList, v ∈ vs
  := by
  simp [closedBy, variableSet]

theorem disjointFrom_iff {vs : List Variable} :
  e.disjointFrom vs = true ↔ ∀ v ∈ e.variableList, v ∉ vs
  := by
  simp [disjointFrom, variableSet]

/-- A condition all of whose variables the left binding has can be tested on it. -/
theorem holds_merge_left {a c m : Binding} (hm : a.merge? c = some m)
    (h : ∀ v ∈ e.variableList, (a.get? v).isSome) :
  e.holds m = e.holds a
  := by
  apply holds_congr
  intro v hv
  obtain ⟨t, ht⟩ := Option.isSome_iff_exists.1 (h v hv)
  rw [Binding.get?_merge? hm, ht]
  rfl

/-- A condition whose variables the right binding has, or the left one has not, can be tested on
the right binding. -/
theorem holds_merge_right {a c m : Binding} (hm : a.merge? c = some m)
    (h : ∀ v ∈ e.variableList, (c.get? v).isSome ∨ a.get? v = none) :
  e.holds m = e.holds c
  := by
  apply holds_congr
  intro v hv
  rw [Binding.get?_merge? hm]
  cases ha : a.get? v with
  | none => rfl
  | some s =>
    have hc : (c.get? v).isSome := by simpa [ha] using h v hv
    obtain ⟨t, ht⟩ := Option.isSome_iff_exists.1 hc
    rw [ht, Binding.compatible_iff.1 (Binding.merge?_eq_some_iff.1 hm).1 v s t ha ht]
    rfl

/-! ### The variables of an expression -/

/-- Two bindings that agree on the variables of an expression, where they give the same terms or none,
give the expression the same value, or the same error. -/
theorem eval_eq_of_agree {a b : Binding} {e : Expression} (h : Agree a b e.variableSet) :
  eval a e = eval b e
  := by
  apply eval_congr
  intro v hv
  apply h v
  rwa [variableSet, mem_canonical]

/-- The length of a name, or else of the text of a person without one. -/
def nameLength : Expression :=
  .coalesce
    [.choose (.bound ⟨"name"⟩) (.call .strLen [.variable ⟨"name"⟩]) (.variable ⟨"length"⟩),
      .call .strLen [.call .str [.variable ⟨"person"⟩]]]

/-- A person with an age and without a name. -/
def agedPerson (age : String) : Binding :=
  .ofList [(⟨"person"⟩, .iri ⟨"ex:1"⟩), (⟨"age"⟩, .literal (.simple age))]

/-- The length of the name does not depend on the age. -/
theorem eval_eq_of_agree_nameLength :
  agedPerson "7" ≠ agedPerson "70" ∧ Agree (agedPerson "7") (agedPerson "70") nameLength.variableSet
    ∧ eval (agedPerson "7") nameLength = eval (agedPerson "70") nameLength
  := by
  have hagree : Agree (agedPerson "7") (agedPerson "70") nameLength.variableSet := by
    unfold Agree
    decide
  refine ⟨by decide, hagree, ?_⟩
  apply eval_eq_of_agree hagree

end RelGraph.Sparql.Expression
