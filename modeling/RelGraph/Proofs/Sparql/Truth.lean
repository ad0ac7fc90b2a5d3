import Mathlib.Tactic.Common
import RelGraph.Sparql.Evaluation

/-!
# Truth values of conditions

Truth values are true, false or an error.  Conjunction and disjunction of two of them are
associative, distribute over each other and are exchanged by negation.  Building a conjunction
and listing the conjuncts of a condition keep its truth value.
-/

namespace RelGraph.Sparql

open Rdf

/-! ### The logic of three values -/

/-- The conjunction of two truth values. -/
def both (s t : Option Bool) : Option Bool := allTrue [s, t]

/-- The disjunction of two truth values. -/
def either (s t : Option Bool) : Option Bool := anyTrue [s, t]

@[simp]
theorem allTrue_nil :
  allTrue [] = some true
  := rfl

@[simp]
theorem anyTrue_nil :
  anyTrue [] = some false
  := rfl

@[simp]
theorem true_both (t : Option Bool) :
  both (some true) t = t
  := by
  rcases t with _ | _ | _ <;> rfl

@[simp]
theorem both_true (t : Option Bool) :
  both t (some true) = t
  := by
  rcases t with _ | _ | _ <;> rfl

@[simp]
theorem false_both (t : Option Bool) :
  both (some false) t = some false
  := by
  rcases t with _ | _ | _ <;> rfl

@[simp]
theorem both_false (t : Option Bool) :
  both t (some false) = some false
  := by
  rcases t with _ | _ | _ <;> rfl

@[simp]
theorem true_either (t : Option Bool) :
  either (some true) t = some true
  := by
  rcases t with _ | _ | _ <;> rfl

@[simp]
theorem either_true (t : Option Bool) :
  either t (some true) = some true
  := by
  rcases t with _ | _ | _ <;> rfl

@[simp]
theorem false_either (t : Option Bool) :
  either (some false) t = t
  := by
  rcases t with _ | _ | _ <;> rfl

@[simp]
theorem either_false (t : Option Bool) :
  either t (some false) = t
  := by
  rcases t with _ | _ | _ <;> rfl

theorem both_assoc (r s t : Option Bool) :
  both (both r s) t = both r (both s t)
  := by
  rcases r with _ | _ | _ <;> rcases s with _ | _ | _ <;> rcases t with _ | _ | _ <;> rfl

theorem either_assoc (r s t : Option Bool) :
  either (either r s) t = either r (either s t)
  := by
  rcases r with _ | _ | _ <;> rcases s with _ | _ | _ <;> rcases t with _ | _ | _ <;> rfl

theorem either_both (r s t : Option Bool) :
  either r (both s t) = both (either r s) (either r t)
  := by
  rcases r with _ | _ | _ <;> rcases s with _ | _ | _ <;> rcases t with _ | _ | _ <;> rfl

theorem both_either (r s t : Option Bool) :
  either (both r s) t = both (either r t) (either s t)
  := by
  rcases r with _ | _ | _ <;> rcases s with _ | _ | _ <;> rcases t with _ | _ | _ <;> rfl

theorem not_either (s t : Option Bool) :
  (either s t).map not = both (s.map not) (t.map not)
  := by
  rcases s with _ | _ | _ <;> rcases t with _ | _ | _ <;> rfl

theorem allTrue_cons (t : Option Bool) (ts : List (Option Bool)) :
  allTrue (t :: ts) = both t (allTrue ts)
  := by
  rcases t with _ | _ | _ <;> by_cases hf : some false ∈ ts <;> by_cases hn : none ∈ ts
    <;> simp [allTrue, both, hf, hn]

theorem anyTrue_cons (t : Option Bool) (ts : List (Option Bool)) :
  anyTrue (t :: ts) = either t (anyTrue ts)
  := by
  rcases t with _ | _ | _ <;> by_cases ht : some true ∈ ts <;> by_cases hn : none ∈ ts
    <;> simp [anyTrue, either, ht, hn]

theorem allTrue_append (ss ts : List (Option Bool)) :
  allTrue (ss ++ ts) = both (allTrue ss) (allTrue ts)
  := by
  induction ss with
  | nil => simp
  | cons s ss ih => rw [List.cons_append, allTrue_cons, ih, allTrue_cons, both_assoc]

theorem anyTrue_append (ss ts : List (Option Bool)) :
  anyTrue (ss ++ ts) = either (anyTrue ss) (anyTrue ts)
  := by
  induction ss with
  | nil => simp
  | cons s ss ih => rw [List.cons_append, anyTrue_cons, ih, anyTrue_cons, either_assoc]

/-- A disjunct can be moved out of a conjunction. -/
theorem allTrue_map_either (s : Option Bool) (ts : List (Option Bool)) :
  allTrue (ts.map fun t => either s t) = either s (allTrue ts)
  := by
  induction ts with
  | nil => simp
  | cons t ts ih => rw [List.map_cons, allTrue_cons, ih, allTrue_cons, either_both]

theorem allTrue_eq_true_iff {ts : List (Option Bool)} :
  allTrue ts = some true ↔ ∀ t ∈ ts, t = some true
  := by
  induction ts with
  | nil => simp
  | cons t ts ih =>
    rw [allTrue_cons, List.forall_mem_cons, ← ih]
    rcases t with _ | _ | _ <;> rcases allTrue ts with _ | _ | _ <;> decide

namespace Expression

/-! ### Conjunctions and disjunctions -/

theorem evalEach_eq_map (b : Binding) (es : List Expression) :
  evalEach b es = es.map (eval b)
  := by
  induction es with
  | nil => rfl
  | cons e es ih => rw [evalEach, ih, List.map_cons]

/-- The truth values of some conditions. -/
def truths (b : Binding) (es : List Expression) : List (Option Bool) :=
  es.map fun e => e.truthOn b

@[simp]
theorem truths_nil (b : Binding) :
  truths b [] = []
  := rfl

@[simp]
theorem truths_cons (b : Binding) (e : Expression) (es : List Expression) :
  truths b (e :: es) = e.truthOn b :: truths b es
  := rfl

@[simp]
theorem truths_append (b : Binding) (es fs : List Expression) :
  truths b (es ++ fs) = truths b es ++ truths b fs
  := List.map_append

theorem truthOf_boolean (t : Option Bool) :
  truthOf (t.map Value.boolean) = t
  := by
  cases t <;> rfl

theorem truthOn_and (es : List Expression) (b : Binding) :
  (and es).truthOn b = allTrue (truths b es)
  := by
  change truthOf ((allTrue ((evalEach b es).map truthOf)).map Value.boolean) = _
  rw [truthOf_boolean, evalEach_eq_map, List.map_map]
  rfl

theorem truthOn_or (es : List Expression) (b : Binding) :
  (or es).truthOn b = anyTrue (truths b es)
  := by
  change truthOf ((anyTrue ((evalEach b es).map truthOf)).map Value.boolean) = _
  rw [truthOf_boolean, evalEach_eq_map, List.map_map]
  rfl

theorem truthOn_not (e : Expression) (b : Binding) :
  (Expression.not e).truthOn b = (e.truthOn b).map Bool.not
  := by
  change truthOf ((e.truthOn b).map fun t => Value.boolean !t) = _
  cases e.truthOn b <;> rfl

/-- The truth value that is read off a literal is the one of its value. -/
theorem truth?_of_literalTruth? {l : Literal} {t : Bool} (h : literalTruth? l = some t) :
  (Value.ofLiteral l).truth? = some t
  := by
  have hs : Datatype.string ≠ Datatype.boolean := by decide
  have hl : Datatype.langString ≠ Datatype.boolean ∧ Datatype.langString ≠ Datatype.string := by
    decide
  cases l with
  | simple s =>
    simp only [literalTruth?, Literal.datatype, if_neg hs, if_pos] at h
    apply h
  | tagged s language => simp [literalTruth?, Literal.datatype, hl] at h
  | typed s datatype ne =>
    by_cases hd : datatype = Datatype.boolean
    · rw [literalTruth?, Literal.datatype, if_pos hd] at h
      have hb : parseBoolean? s = some t := h
      simp [Value.ofLiteral, typedValue?, hd, hb, Value.truth?]
    · simp [literalTruth?, Literal.datatype, hd, ne] at h

/-- The truth value that is read off a constant is the one that it evaluates to. -/
theorem truthOn_of_truth? {e : Expression} {t : Bool} (h : e.truth? = some t) (b : Binding) :
  e.truthOn b = some t
  := by
  cases e with
  | literal l => apply truth?_of_literalTruth? h
  | _ => simp [truth?] at h

@[simp]
theorem truthOn_ofBool (t : Bool) (b : Binding) :
  (ofBool t).truthOn b = some t
  := by
  apply truthOn_of_truth?
  cases t <;> decide

theorem truthOn_toCondition (e : Expression) (b : Binding) :
  e.toCondition.truthOn b = e.truthOn b
  := by
  rw [toCondition]
  split
  · rfl
  · simp [truthOn_and, allTrue_cons]

/-- The operands that are kept have the conjunction of all; a false one is missing only if they
are none. -/
theorem allTrue_conjuncts? (es : List Expression) (b : Binding) :
  ((conjuncts? es).elim (some false) fun kept => allTrue (truths b kept)) = allTrue (truths b es)
  := by
  induction es with
  | nil => rfl
  | cons e es ih =>
    rw [conjuncts?, truths_cons, allTrue_cons, ← ih]
    split
    · rename_i h
      simp [truthOn_of_truth? h b]
    · rename_i h
      simp [truthOn_of_truth? h b]
    · cases conjuncts? es with
      | none => simp
      | some kept =>
        simp only [Option.map_some, Option.elim_some]
        split
        · rw [truths_append, allTrue_append, truthOn_and]
        · rw [truths_cons, allTrue_cons]

/-- A conjunction has the truth value of its operands. -/
theorem truthOn_andAll (es : List Expression) (b : Binding) :
  (andAll es).truthOn b = allTrue (truths b es)
  := by
  rw [andAll, ← allTrue_conjuncts?]
  split
  · rename_i h
    simp [h]
  · rename_i h
    simp [h]
  · rename_i e h
    simp [h, truthOn_toCondition, allTrue_cons]
  · rename_i h
    simp [h, truthOn_and]

/-! ### Conjuncts -/

/-- Induction on expressions, with the hypothesis for every operand in a list. -/
@[induction_eliminator]
theorem induction {motive : Expression → Prop}
    (iri : ∀ i, motive (.iri i)) (literal : ∀ l, motive (.literal l))
    (variableOf : ∀ v, motive (.variable v))
    (or : ∀ es, (∀ e ∈ es, motive e) → motive (.or es))
    (and : ∀ es, (∀ e ∈ es, motive e) → motive (.and es))
    (equal : ∀ x y, motive x → motive y → motive (.equal x y))
    (sameTerm : ∀ x y, motive x → motive y → motive (.sameTerm x y))
    (compare : ∀ test x y, motive x → motive y → motive (.compare test x y))
    (arithmetic : ∀ op x y, motive x → motive y → motive (.arithmetic op x y))
    (plus : ∀ e, motive e → motive (.plus e)) (minus : ∀ e, motive e → motive (.minus e))
    (not : ∀ e, motive e → motive (.not e)) (bound : ∀ v, motive (.bound v))
    (choose : ∀ x y z, motive x → motive y → motive z → motive (.choose x y z))
    (coalesce : ∀ es, (∀ e ∈ es, motive e) → motive (.coalesce es))
    (call : ∀ f es, (∀ e ∈ es, motive e) → motive (.call f es)) (e : Expression) :
  motive e
  := by
  apply @Expression.rec motive (fun es => ∀ e ∈ es, motive e) iri literal variableOf or and equal
    sameTerm compare arithmetic plus minus not bound choose coalesce call
  · simp
  · intro e es he hes
    rw [List.forall_mem_cons]
    use he

theorem conjunctLists_eq_flatMap (es : List Expression) :
  conjunctLists es = es.flatMap conjunctList
  := by
  induction es with
  | nil => rfl
  | cons e es ih => rw [conjunctLists, ih, List.flatMap_cons]

/-- If a list of operands is replaced by lists with the same conjunctions, the conjunction of
all stays the same. -/
theorem allTrue_flatMap {f : Expression → List Expression} {es : List Expression} {b : Binding}
    (h : ∀ e ∈ es, allTrue (truths b (f e)) = e.truthOn b) :
  allTrue (truths b (es.flatMap f)) = allTrue (truths b es)
  := by
  induction es with
  | nil => rfl
  | cons e es ih =>
    rw [List.forall_mem_cons] at h
    rw [List.flatMap_cons, truths_append, allTrue_append, h.1, ih h.2, truths_cons, allTrue_cons]

theorem anyTrue_flatMap {f : Expression → List Expression} {es : List Expression} {b : Binding}
    (h : ∀ e ∈ es, anyTrue (truths b (f e)) = e.truthOn b) :
  anyTrue (truths b (es.flatMap f)) = anyTrue (truths b es)
  := by
  induction es with
  | nil => rfl
  | cons e es ih =>
    rw [List.forall_mem_cons] at h
    rw [List.flatMap_cons, truths_append, anyTrue_append, h.1, ih h.2, truths_cons, anyTrue_cons]

/-- A condition has the truth value of its conjuncts. -/
theorem allTrue_conjunctList (e : Expression) (b : Binding) :
  allTrue (truths b e.conjunctList) = e.truthOn b
  := by
  induction e with
  | and es ih => rw [conjunctList, conjunctLists_eq_flatMap, allTrue_flatMap ih, truthOn_and]
  | _ =>
    simp only [conjunctList]
    split
    · rename_i h
      rw [truthOn_of_truth? h b]
      rfl
    · simp [allTrue_cons]

/-! ### Conditions that hold -/

theorem holds_iff {e : Expression} {b : Binding} :
  e.holds b = true ↔ e.truthOn b = some true
  := by
  rw [holds]
  rcases e.truthOn b with _ | _ | _ <;> simp

/-- Some conditions hold together exactly when their conjunction is true. -/
theorem all_holds_iff {es : List Expression} {b : Binding} :
  (es.all fun e => e.holds b) = true ↔ allTrue (truths b es) = some true
  := by
  simp only [List.all_eq_true, holds_iff, allTrue_eq_true_iff, truths, List.forall_mem_map]

theorem holds_andAll (es : List Expression) (b : Binding) :
  (andAll es).holds b = es.all fun e => e.holds b
  := by
  rw [Bool.eq_iff_iff, holds_iff, all_holds_iff, truthOn_andAll]

end Expression

end RelGraph.Sparql
