import RelGraph.Proofs.Sparql.Truth
import RelGraph.Sparql.Clauses

/-!
# Clauses have the truth value of the condition

Each step of splitting a condition keeps its truth value on every binding, errors included:
pushing negations inward, flattening, and distributing disjunctions over conjunctions.
-/

namespace RelGraph.Sparql.Expression

open Rdf

/-! ### Negations -/

theorem pushedNegations_eq_map (es : List Expression) :
  pushedNegations es = es.map pushedNegation
  := by
  induction es with
  | nil => rfl
  | cons e es ih => rw [pushedNegations, ih, List.map_cons]

theorem pushAllNegations_eq_map (es : List Expression) :
  pushAllNegations es = es.map pushNegations
  := by
  induction es with
  | nil => rfl
  | cons e es ih => rw [pushAllNegations, ih, List.map_cons]

/-- Operands may be replaced by others with the same truth values. -/
theorem truths_map {f : Expression → Expression} {es : List Expression} {b : Binding}
    (h : ∀ e ∈ es, (f e).truthOn b = e.truthOn b) :
  truths b (es.map f) = truths b es
  := by
  rw [truths, List.map_map]
  apply List.map_congr_left h

/-- The conjunction of the negations is the negation of the disjunction. -/
theorem allTrue_truths_negated {f : Expression → Expression} {es : List Expression} {b : Binding}
    (h : ∀ e ∈ es, (f e).truthOn b = (e.truthOn b).map Bool.not) :
  allTrue (truths b (es.map f)) = (anyTrue (truths b es)).map Bool.not
  := by
  induction es with
  | nil => rfl
  | cons e es ih =>
    rw [List.forall_mem_cons] at h
    rw [List.map_cons, truths_cons, allTrue_cons, h.1, ih h.2, truths_cons, anyTrue_cons,
      not_either]

theorem truthOn_pushedNegation (e : Expression) (b : Binding) :
  (pushedNegation e).truthOn b = (e.truthOn b).map Bool.not
  := by
  induction e with
  | not e =>
    rw [pushedNegation, truthOn_not]
    rcases e.truthOn b with _ | _ | _ <;> rfl
  | or es ih =>
    rw [pushedNegation, truthOn_and, pushedNegations_eq_map, allTrue_truths_negated ih,
      truthOn_or]
  | _ => simp only [pushedNegation, truthOn_not]

theorem truthOn_pushNegations (e : Expression) (b : Binding) :
  (pushNegations e).truthOn b = e.truthOn b
  := by
  induction e with
  | not e ih => rw [pushNegations, truthOn_pushedNegation, ih, truthOn_not]
  | and es ih => rw [pushNegations, truthOn_and, pushAllNegations_eq_map, truths_map ih,
      truthOn_and]
  | or es ih => rw [pushNegations, truthOn_or, pushAllNegations_eq_map, truths_map ih, truthOn_or]
  | _ => simp only [pushNegations]

/-! ### Flattening -/

theorem flattenAnds_eq_flatMap (es : List Expression) :
  flattenAnds es = es.flatMap flattenAnd
  := by
  induction es with
  | nil => rfl
  | cons e es ih => rw [flattenAnds, ih, List.flatMap_cons]

theorem flattenOrs_eq_flatMap (es : List Expression) :
  flattenOrs es = es.flatMap flattenOr
  := by
  induction es with
  | nil => rfl
  | cons e es ih => rw [flattenOrs, ih, List.flatMap_cons]

theorem allTrue_flattenAnd (e : Expression) (b : Binding) :
  allTrue (truths b (flattenAnd e)) = e.truthOn b
  := by
  induction e with
  | and es ih => rw [flattenAnd, flattenAnds_eq_flatMap, allTrue_flatMap ih, truthOn_and]
  | _ => simp [flattenAnd, allTrue_cons]

theorem anyTrue_flattenOr (e : Expression) (b : Binding) :
  anyTrue (truths b (flattenOr e)) = e.truthOn b
  := by
  induction e with
  | or es ih => rw [flattenOr, flattenOrs_eq_flatMap, anyTrue_flatMap ih, truthOn_or]
  | _ => simp [flattenOr, anyTrue_cons]

/-! ### Distribution -/

theorem truthOn_clause (es : List Expression) (b : Binding) :
  (clause es).truthOn b = anyTrue (truths b es)
  := by
  unfold clause
  split
  · simp [anyTrue_cons]
  · apply truthOn_or

/-- The truth value of some clauses: each of them is a disjunction. -/
def clausesTruth (b : Binding) (cs : List (List Expression)) : Option Bool :=
  allTrue (cs.map fun c => anyTrue (truths b c))

/-- Adding one of the conjuncts of an operand to each clause, in all ways, adds the operand as a
disjunct. -/
theorem clausesTruth_flatMap (b : Binding) (cs : List (List Expression)) (e : Expression) :
  clausesTruth b (cs.flatMap fun c => (flattenAnd e).map fun o => c ++ flattenOr o)
    = either (clausesTruth b cs) (e.truthOn b)
  := by
  induction cs with
  | nil => simp [clausesTruth]
  | cons c cs ih =>
    have hc : clausesTruth b ((flattenAnd e).map fun o => c ++ flattenOr o)
        = either (anyTrue (truths b c)) (e.truthOn b) := by
      rw [← allTrue_flattenAnd e b, ← allTrue_map_either, clausesTruth, List.map_map]
      conv_rhs => rw [truths.eq_1 b e.flattenAnd, List.map_map]
      congr 1
      apply List.map_congr_left
      intro o _
      simp only [Function.comp_apply, truths_append, anyTrue_append, anyTrue_flattenOr]
    simp only [clausesTruth, List.flatMap_cons, List.map_append, allTrue_append] at hc ih ⊢
    rw [hc, ih, List.map_cons, allTrue_cons, both_either]

/-- The clauses of a disjunction, together with those collected before, are true when one of
both is. -/
theorem clausesTruth_clauses? {es : List Expression} {acc cs : List (List Expression)}
    (h : clauses? es acc = some cs) (b : Binding) :
  clausesTruth b cs = either (clausesTruth b acc) (anyTrue (truths b es))
  := by
  induction es generalizing acc with
  | nil =>
    cases h
    simp
  | cons e es ih =>
    rw [clauses?] at h
    split at h
    · cases h
    · rw [ih h, clausesTruth_flatMap, either_assoc, truths_cons, anyTrue_cons]

theorem distributeAll_eq_map (es : List Expression) :
  distributeAll es = es.map distribute
  := by
  induction es with
  | nil => rfl
  | cons e es ih => rw [distributeAll, ih, List.map_cons]

theorem distributedConjuncts_eq_flatMap (es : List Expression) :
  distributedConjuncts es = es.flatMap fun e => flattenAnd (distribute e)
  := by
  induction es with
  | nil => rfl
  | cons e es ih => rw [distributedConjuncts, ih, List.flatMap_cons]

theorem truthOn_distribute (e : Expression) (b : Binding) :
  (distribute e).truthOn b = e.truthOn b
  := by
  induction e with
  | and es ih =>
    rw [distribute, truthOn_and, distributedConjuncts_eq_flatMap, truthOn_and]
    apply allTrue_flatMap
    intro e he
    rw [allTrue_flattenAnd, ih e he]
  | or es ih =>
    rw [truthOn_or, ← truths_map ih, ← distributeAll_eq_map, distribute]
    split
    · rename_i cs h
      have hcs := clausesTruth_clauses? h b
      simp only [clausesTruth, List.map_cons, List.map_nil, truths_nil, anyTrue_nil,
        allTrue_cons, allTrue_nil, both_true, false_either] at hcs
      rw [truthOn_and, ← hcs, truths, List.map_map]
      congr 1
      apply List.map_congr_left
      intro c _
      apply truthOn_clause
    · apply truthOn_or
  | _ => simp only [distribute]

/-- The conditions into which a condition is split have its truth value as their conjunction. -/
theorem allTrue_split (e : Expression) (b : Binding) :
  allTrue (truths b e.split) = e.truthOn b
  := by
  rw [split]
  split
  · rw [allTrue_flattenAnd, truthOn_distribute, truthOn_pushNegations]
  · apply allTrue_conjunctList

/-- The conjunction of what a condition is split into has the truth value of the condition on every
binding: it is true, false or an error with the condition. -/
theorem truthOn_and_split (e : Expression) (b : Binding) :
  (and e.split).truthOn b = e.truthOn b
  := by
  rw [truthOn_and, allTrue_split]

theorem all_holds_split (e : Expression) (b : Binding) :
  (e.split.all fun c => c.holds b) = e.holds b
  := by
  rw [Bool.eq_iff_iff, all_holds_iff, allTrue_split, holds_iff]

end RelGraph.Sparql.Expression
