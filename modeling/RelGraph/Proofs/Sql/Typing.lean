import RelGraph.Proofs.Except
import RelGraph.Proofs.Sql.Normal

/-!
# Well-typed expressions

An expression is of a kind if it uses conditions and strings where they belong, and compares only
what is of one kind; over a row it is well-typed if the row has all its columns.  Then it evaluates
without an error.

The simplifying constructors reorder, merge and drop operands, and the evaluation stops where it is
decided.  On well-typed operands this can not be seen: the value is the one of the connective of
the three-valued logic, of the concatenation or of the comparison.  Only an expression that is
compared with itself is equal to it also where it is unknown (`Expr.eval_constructors`).
-/

namespace RelGraph.Sql

open Sparql

namespace Expr

variable {row : Row} {env : Env} {es : List Expr} {e a b : Expr}

/-! ### Concatenations -/

theorem joinTexts_singleton (t : Cell) :
  joinTexts [t] = t
  := by
  cases t <;> simp [joinTexts]

theorem joinTexts_filter (es : List Expr) :
  joinTexts ((es.filter fun e => e ≠ .constant "").map (textOn row))
    = joinTexts (es.map (textOn row))
  := by
  induction es with
  | nil => rfl
  | cons e es ih =>
    by_cases he : e = .constant ""
    · have htext : textOn row (.constant "") = some "" := rfl
      rw [he, List.filter_cons_of_neg (by simp), ih, List.map_cons, joinTexts, htext]
      simp
    · rw [List.filter_cons_of_pos (by simpa using he), List.map_cons, joinTexts, ih, List.map_cons,
        joinTexts]

theorem textOn_concatOf (es : List Expr) :
  textOn row (concatOf es) = joinTexts (es.map (textOn row))
  := by
  rw [← joinTexts_filter, concatOf]
  split
  · rename_i heq
    rw [heq]
    rfl
  · rename_i e heq
    rw [heq, List.map_singleton, joinTexts_singleton]
  · rw [textOn, valueOn, valuesOn_eq_map, List.map_map]
    rfl

/-! ### Kinds -/

/-- The kinds of expressions. -/
inductive Kind where
  | text
  | condition

/-- The expression is of a kind, and the row has its columns. -/
inductive Typed (env : Env) : Kind → Expr → Prop
  | always : Typed env .condition .always
  | never : Typed env .condition .never
  | column {c : Column} (h : (List.lookup c env).isSome) : Typed env .text (.column c)
  | constant (s : String) : Typed env .text (.constant s)
  | concat {es : List Expr} (h : ∀ e ∈ es, Typed env .text e) : Typed env .text (.concat es)
  | and {es : List Expr} (h : ∀ e ∈ es, Typed env .condition e) : Typed env .condition (.and es)
  | or {es : List Expr} (h : ∀ e ∈ es, Typed env .condition e) : Typed env .condition (.or es)
  | not {e : Expr} (h : Typed env .condition e) : Typed env .condition (.not e)
  | equal {k : Kind} {a b : Expr} (ha : Typed env k a) (hb : Typed env k b) :
    Typed env .condition (.equal a b)
  | isNotNull {e : Expr} (h : Typed env .text e) : Typed env .condition (.isNotNull e)

theorem typed_and :
  Typed env .condition (.and es) ↔ ∀ e ∈ es, Typed env .condition e
  := by
  constructor
  · rintro ⟨⟩
    assumption
  · apply Typed.and

theorem typed_or :
  Typed env .condition (.or es) ↔ ∀ e ∈ es, Typed env .condition e
  := by
  constructor
  · rintro ⟨⟩
    assumption
  · apply Typed.or

/-- The kind as it is read off the expression. -/
def Kind.admits : Kind → Expr → Bool
  | .text => isText
  | .condition => isCondition

theorem Typed.admits {k : Kind} (h : Typed env k e) :
  k.admits e = true
  := by
  induction h with
  | always | never | column _ | constant _ => rfl
  | concat _ ih =>
    rw [Kind.admits, isText, areTexts_eq_all, List.all_eq_true]
    exact ih
  | and _ ih => apply isCondition_and.2 ih
  | or _ ih => apply isCondition_or.2 ih
  | not _ ih => apply ih
  | @equal k a b _ _ iha ihb =>
    rw [Kind.admits, isCondition, Bool.or_eq_true, Bool.and_eq_true, Bool.and_eq_true]
    cases k with
    | text => exact Or.inl ⟨iha, ihb⟩
    | condition => exact Or.inr ⟨iha, ihb⟩
  | isNotNull _ ih => apply ih

theorem has_columnLists (h : ∀ e ∈ es, env.Has e.columnList) :
  env.Has (columnLists es)
  := by
  intro c hc
  rw [columnLists_eq_flatMap, List.mem_flatMap] at hc
  obtain ⟨e, he, hc⟩ := hc
  apply h e he c hc

theorem Typed.has {k : Kind} (h : Typed env k e) :
  env.Has e.columnList
  := by
  induction h with
  | always | never | constant _ => simp [Env.Has, columnList]
  | column h => simpa [Env.Has, columnList] using h
  | concat _ ih | and _ ih | or _ ih => apply has_columnLists ih
  | not _ ih | isNotNull _ ih => apply ih
  | equal _ _ iha ihb =>
    intro c hc
    obtain hc | hc := List.mem_append.1 hc
    · apply iha c hc
    · apply ihb c hc

theorem Typed.eval_text (h : Typed env .text e) :
  eval env e = .ok (.text (e.textOn ⟨env⟩))
  := eval_of_isText h.admits h.has

theorem Typed.eval_condition (h : Typed env .condition e) :
  eval env e = .ok (.truth (e.truthOn ⟨env⟩))
  := eval_of_isCondition h.admits h.has

/-- A well-typed expression evaluates to its value on the row. -/
theorem Typed.eval_eq {k : Kind} (h : Typed env k e) :
  eval env e = .ok (e.valueOn ⟨env⟩)
  := by
  cases k with
  | text => rw [h.eval_text, valueOn_of_isText h.admits]
  | condition => rw [h.eval_condition, valueOn_of_isCondition h.admits]

/-! ### The constructors keep the kind -/

theorem typed_andAll (h : ∀ e ∈ es, Typed env .condition e) :
  Typed env .condition (andAll es)
  := Junction.all_of_iff .and h .always .never fun _ => typed_and

theorem typed_orAll (h : ∀ e ∈ es, Typed env .condition e) :
  Typed env .condition (orAll es)
  := Junction.all_of_iff .or h .never .always fun _ => typed_or

theorem typed_notOf (h : Typed env .condition e) :
  Typed env .condition (notOf e)
  := by
  apply notOf_induct h .always .never
  · intro x hx
    cases hx with
    | not hx => apply hx
  · intro x hx _
    apply Typed.not hx

theorem typed_equalOf {k : Kind} (ha : Typed env k a) (hb : Typed env k b) :
  Typed env .condition (equalOf a b)
  := by
  apply equalOf_induct .always .never
  rintro x y (⟨rfl, rfl⟩ | ⟨rfl, rfl⟩) _ _ _
  · apply Typed.equal ha hb
  · apply Typed.equal hb ha

theorem typed_concatOf (h : ∀ e ∈ es, Typed env .text e) :
  Typed env .text (concatOf es)
  := by
  apply concatOf_induct h (.constant "")
  intro es hes _ _
  apply Typed.concat hes

/-! ### The values of the constructors -/

/-- A well-typed expression evaluates without an error.  On well-typed operands the constructors
give expressions that evaluate to the conjunction, the disjunction and the negation of the values
in the three-valued logic, to their concatenation, which is unknown if one of them is, and to their
comparison, which is unknown if one of them is unless it is that of an expression with itself. -/
theorem eval_constructors (env : Env) :
  (∀ k e, Typed env k e → ∃ v, eval env e = .ok v)
    ∧ (∀ es, (∀ e ∈ es, Typed env .condition e) → ∃ ts, es.mapM (eval env) = .ok (ts.map .truth)
      ∧ eval env (andAll es) = .ok (.truth (allTrue ts))
      ∧ eval env (orAll es) = .ok (.truth (anyTrue ts)))
    ∧ (∀ e, Typed env .condition e → ∃ t, eval env e = .ok (.truth t)
      ∧ eval env (notOf e) = .ok (.truth (t.map Bool.not)))
    ∧ (∀ es, (∀ e ∈ es, Typed env .text e) → ∃ ts, es.mapM (eval env) = .ok (ts.map .text)
      ∧ eval env (concatOf es) = .ok (.text (joinTexts ts)))
    ∧ ∀ k a b, Typed env k a → Typed env k b → ∃ v w, eval env a = .ok v ∧ eval env b = .ok w
      ∧ eval env (equalOf a b) = .ok (.truth (if a = b then some true else v.equal? w))
  := by
  refine ⟨?_, ?_, ?_, ?_, ?_⟩
  · intro k e he
    use e.valueOn ⟨env⟩, he.eval_eq
  · intro es hes
    use es.map (truthOn ⟨env⟩)
    refine ⟨?_, ?_, ?_⟩
    · rw [List.map_map]
      apply mapM_of_forall fun e he => (hes e he).eval_condition
    · rw [(typed_andAll hes).eval_condition, truthOn_andAll]
    · rw [(typed_orAll hes).eval_condition, truthOn_orAll]
  · intro e he
    use truthOn ⟨env⟩ e, he.eval_condition
    rw [(typed_notOf he).eval_condition, truthOn_notOf]
  · intro es hes
    use es.map (textOn ⟨env⟩)
    constructor
    · rw [List.map_map]
      apply mapM_of_forall fun e he => (hes e he).eval_text
    · rw [(typed_concatOf hes).eval_text, textOn_concatOf]
  · intro k a b ha hb
    use a.valueOn ⟨env⟩, b.valueOn ⟨env⟩, ha.eval_eq, hb.eval_eq
    rw [(typed_equalOf ha hb).eval_condition]
    split
    · rename_i heq
      rw [heq, equalOf_self, truthOn_always]
    · rename_i hne
      rw [truthOn_equalOf_of_ne _ hne]

/-- A row with a name that is not known. -/
def unknownName : Env := [(⟨⟨none, "p"⟩, "name"⟩, none)]

/-- The unknown name may be a given one or not, and is equal to itself. -/
theorem eval_constructors_unknownName :
  (∃ t, eval unknownName (columnIs ⟨⟨none, "p"⟩, "name"⟩ "Ann") = .ok (.truth t)
      ∧ eval unknownName (notOf (columnIs ⟨⟨none, "p"⟩, "name"⟩ "Ann"))
        = .ok (.truth (t.map Bool.not)))
    ∧ eval unknownName (equalOf (.column ⟨⟨none, "p"⟩, "name"⟩) (.column ⟨⟨none, "p"⟩, "name"⟩))
      = .ok (.truth (some true))
  := by
  have hname : Typed unknownName .text (.column ⟨⟨none, "p"⟩, "name"⟩) := .column rfl
  obtain ⟨-, -, hnot, -, hequal⟩ := eval_constructors unknownName
  constructor
  · apply hnot
    apply typed_equalOf hname (.constant "Ann")
  · obtain ⟨v, w, -, -, heval⟩ := hequal .text _ _ hname hname
    simpa using heval

end Expr

end RelGraph.Sql
