import RelGraph.Proofs.Except
import RelGraph.Proofs.Sparql.Truth
import RelGraph.Sparql.Support

/-!
# Membership in a list

The test whether a value is one of a list becomes a disjunction of comparisons, which has the
meaning of the test.  For the empty list it becomes a choice between two false values.  This has the
meaning of the test for values that are conditions, and is an error for all the others
(`Algebra.member_law`).
-/

namespace RelGraph.Sparql

open Rdf

/-! ### What a membership test means -/

/-- The outcome of the test whether the value of an expression is one of those of a list: it is true
if the expression is equal to some member.  Otherwise it is an error if the expression or a
comparison fails, and false if they do not. -/
inductive Expression.TestsMembership (b : Binding) (e : Expression) (es : List Expression) :
    Option Value → Prop where
  | found (h : ∃ m ∈ es, (equal e m).eval b = some (.boolean true)) :
    TestsMembership b e es (some (.boolean true))
  | failed (h : ∀ m ∈ es, (equal e m).eval b ≠ some (.boolean true))
      (hfailed : e.eval b = none ∨ ∃ m ∈ es, (equal e m).eval b = none) :
    TestsMembership b e es none
  | missing (h : ∀ m ∈ es, (equal e m).eval b ≠ some (.boolean true))
      (hvalue : e.eval b ≠ none) (hcompared : ∀ m ∈ es, (equal e m).eval b ≠ none) :
    TestsMembership b e es (some (.boolean false))

namespace Expression

variable {b : Binding} {e : Expression} {es : List Expression}

/-! ### Comparisons -/

/-- The value of a comparison is a truth value or an error. -/
theorem eval_equal (b : Binding) (x y : Expression) :
  (equal x y).eval b = ((equal x y).truthOn b).map .boolean
  := by
  have hequal : ∃ t : Option Bool, (equal x y).eval b = t.map .boolean := by
    rw [eval]
    cases eval b x with
    | none => exact ⟨none, rfl⟩
    | some v =>
      cases eval b y with
      | none => exact ⟨none, rfl⟩
      | some w => exact ⟨v.equal? w, rfl⟩
  obtain ⟨t, ht⟩ := hequal
  rw [truthOn, ht, truthOf_boolean]

theorem eval_equal_eq_iff (t : Option Bool) (x y : Expression) :
  (equal x y).eval b = t.map .boolean ↔ (equal x y).truthOn b = t
  := by
  rw [eval_equal]
  cases t <;> cases (equal x y).truthOn b <;> simp

theorem eval_equal_of_eval_eq_none {x : Expression} (h : x.eval b = none) (y : Expression) :
  (equal x y).eval b = none
  := by
  change (x.eval b).bind _ = none
  rw [h]
  rfl

/-! ### Disjunctions of comparisons -/

theorem eval_anyEqual (b : Binding) (e : Expression) (es : List Expression) :
  (or (es.map (equal e))).eval b = (anyTrue (es.map fun m => (equal e m).truthOn b)).map .boolean
  := by
  change (anyTrue ((evalEach b (es.map (equal e))).map truthOf)).map Value.boolean = _
  rw [evalEach_eq_map, List.map_map, List.map_map]
  rfl

/-- The disjunction of the comparisons with the members of a list that is not empty has the meaning
of a membership test. -/
theorem testsMembership_anyEqual (hes : es ≠ []) :
  TestsMembership b e es ((or (es.map (equal e))).eval b)
  := by
  have htrue : some true ∈ es.map (fun m => (equal e m).truthOn b)
      ↔ ∃ m ∈ es, (equal e m).eval b = some (.boolean true) := by
    simp only [List.mem_map, ← eval_equal_eq_iff, Option.map_some]
  have herror : none ∈ es.map (fun m => (equal e m).truthOn b)
      ↔ ∃ m ∈ es, (equal e m).eval b = none := by
    simp only [List.mem_map, ← eval_equal_eq_iff, Option.map_none]
  rw [eval_anyEqual, anyTrue]
  split_ifs with hfound hfailed
  · apply TestsMembership.found (htrue.1 hfound)
  · rw [htrue] at hfound
    apply TestsMembership.failed (by simpa using hfound) (.inr (herror.1 hfailed))
  · rw [htrue] at hfound
    rw [herror] at hfailed
    have hcompared : ∀ m ∈ es, (equal e m).eval b ≠ none := by simpa using hfailed
    apply TestsMembership.missing (by simpa using hfound) _ hcompared
    intro hvalue
    obtain ⟨m, hm⟩ := List.exists_mem_of_ne_nil es hes
    apply hcompared m hm (eval_equal_of_eval_eq_none hvalue m)

/-! ### The empty list -/

theorem eval_chooseFalse (b : Binding) (e : Expression) :
  (choose e (ofBool false) (ofBool false)).eval b = (e.truthOn b).map fun _ => .boolean false
  := by
  rw [eval, truthOn]
  obtain _ | _ | _ := truthOf (e.eval b) <;> rfl

/-- Nothing is in the empty list, so the test is false unless the expression fails. -/
theorem testsMembership_nil_iff {v : Option Value} :
  TestsMembership b e [] v ↔ v = (e.eval b).map fun _ => .boolean false
  := by
  constructor
  · intro h
    cases h with
    | found h => simp at h
    | failed _ h =>
      have hvalue : e.eval b = none := by simpa using h
      rw [hvalue]
      rfl
    | missing _ h =>
      obtain ⟨w, hw⟩ := Option.ne_none_iff_exists'.1 h
      rw [hw]
      rfl
  · rintro rfl
    cases h : e.eval b with
    | none => exact .failed (by simp) (.inl h)
    | some w => exact .missing (by simp) (by simp [h]) (by simp)

/-- The choice between two false values has the meaning of the test unless the expression has a
value that is no condition. -/
theorem testsMembership_chooseFalse_iff :
  TestsMembership b e [] ((choose e (ofBool false) (ofBool false)).eval b)
    ↔ ¬(e.eval b ≠ none ∧ e.truthOn b = none)
  := by
  rw [testsMembership_nil_iff, eval_chooseFalse, truthOn]
  cases hv : e.eval b with
  | none => simp [truthOf]
  | some v => cases ht : truthOf (some v) <;> simp

end Expression

namespace Algebra

theorem toExpressions_eq_nil {es : List Expr} {members : List Expression}
    (h : toExpressions es = .ok members) :
  members = [] ↔ es = []
  := by
  cases es with
  | nil =>
    cases h
    simp
  | cons e es =>
    rw [toExpressions, bind_eq_ok] at h
    obtain ⟨m, -, h⟩ := h
    rw [bind_eq_ok] at h
    obtain ⟨ms, -, h⟩ := h
    cases h
    simp

/-- The membership test with its parts converted. -/
theorem toExpression_member {l : Expr} {es : List Expr} {left : Expression}
    {members : List Expression} (hl : l.toExpression = .ok left)
    (hes : toExpressions es = .ok members) :
  (Expr.member l es).toExpression
    = .ok (if members.isEmpty then .choose left (.ofBool false) (.ofBool false)
      else .or (members.map (.equal left)))
  := by
  rw [Expr.toExpression, hl, hes]
  rfl

/-- A membership test keeps its meaning when it is converted, except for one case: if the list is
empty and the left expression has a value that is no condition, the test is an error where it should
be false. -/
theorem member_law {l : Expr} {es : List Expr} {left : Expression} {members : List Expression}
    (hl : l.toExpression = .ok left) (hes : toExpressions es = .ok members) :
  ∃ e, (Expr.member l es).toExpression = .ok e
    ∧ ∀ b, (left.TestsMembership b members (e.eval b)
        ↔ ¬(es = [] ∧ left.eval b ≠ none ∧ left.truthOn b = none))
      ∧ (es = [] → left.truthOn b = none → e.eval b = none)
  := by
  refine ⟨_, toExpression_member hl hes, fun b => ?_⟩
  by_cases hnil : es = []
  · obtain rfl := (toExpressions_eq_nil hes).2 hnil
    rw [List.isEmpty_nil, if_pos rfl, Expression.testsMembership_chooseFalse_iff,
      Expression.eval_chooseFalse, and_iff_right hnil]
    use Iff.rfl
    intro _ htruth
    rw [htruth]
    rfl
  · have hmembers : members ≠ [] := mt (toExpressions_eq_nil hes).1 hnil
    rw [List.isEmpty_eq_false_iff.2 hmembers]
    constructor
    · apply iff_of_true (Expression.testsMembership_anyEqual hmembers)
      apply mt And.left hnil
    · intro h
      apply absurd h hnil

/-- Whether a person is one of two persons, of whom one may not be known. -/
theorem member_law_person :
  (Expr.variable ⟨"person"⟩).toExpression = .ok (.variable ⟨"person"⟩)
    ∧ toExpressions [.variable ⟨"other"⟩, .iri ⟨"ex:ann"⟩]
      = .ok [.variable ⟨"other"⟩, .iri ⟨"ex:ann"⟩]
    ∧ ∃ e, (Expr.member (.variable ⟨"person"⟩) [.variable ⟨"other"⟩, .iri ⟨"ex:ann"⟩]).toExpression
        = .ok e
      ∧ ∀ b, (Expression.variable ⟨"person"⟩).TestsMembership b
        [.variable ⟨"other"⟩, .iri ⟨"ex:ann"⟩] (e.eval b)
  := by
  have hmembers : toExpressions [.variable ⟨"other"⟩, .iri ⟨"ex:ann"⟩]
    = .ok [.variable ⟨"other"⟩, .iri ⟨"ex:ann"⟩] := rfl
  refine ⟨rfl, hmembers, ?_⟩
  obtain ⟨e, he, hlaw⟩ := member_law (l := .variable ⟨"person"⟩) rfl hmembers
  use e, he
  intro b
  apply (hlaw b).1.2
  simp

/-- A person is in no empty list, but the test whether it is one of them is an error. -/
theorem member_fails_person :
  ∃ (b : Binding) (e : Expression), b.get? ⟨"person"⟩ = some (.iri ⟨"ex:ann"⟩)
    ∧ (Expr.member (.variable ⟨"person"⟩) []).toExpression = .ok e
    ∧ (Expression.variable ⟨"person"⟩).TestsMembership b [] (some (.boolean false))
    ∧ ¬(Expression.variable ⟨"person"⟩).TestsMembership b [] (e.eval b)
  := by
  refine ⟨.ofList [(⟨"person"⟩, .iri ⟨"ex:ann"⟩)], _, rfl, toExpression_member rfl rfl, ?_, ?_⟩
  · rw [Expression.testsMembership_nil_iff]
    rfl
  · rw [List.isEmpty_nil, if_pos rfl, Expression.testsMembership_chooseFalse_iff, not_not]
    exact ⟨Option.some_ne_none (Value.iri ⟨"ex:ann"⟩), rfl⟩

end Algebra

end RelGraph.Sparql
