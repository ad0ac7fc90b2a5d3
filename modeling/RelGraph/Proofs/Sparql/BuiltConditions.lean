import RelGraph.Proofs.Sparql.Membership

/-!
# Building conditions

Conjunctions, disjunctions and negations are simplified when they are built: constants are folded,
and operands of the same kind are spliced in.  This keeps the truth value on every binding.  A single
operand that is left over stays as it is if its value can only be a truth value, which is read off its
form.  The form is right unless a literal has the datatype of truth values and is none
(`Expression.built_conditions`).
-/

namespace RelGraph.Sparql

open Rdf

/-! ### Truth values -/

/-- The value is a truth value or an error. -/
def IsTruth (v : Option Value) : Prop := ∃ t : Option Bool, v = t.map .boolean

theorem isTruth_none :
  IsTruth none
  := ⟨none, rfl⟩

theorem isTruth_boolean (t : Bool) :
  IsTruth (some (.boolean t))
  := ⟨some t, rfl⟩

theorem isTruth_map {α : Type} (x : Option α) (f : α → Bool) :
  IsTruth (x.map fun a => .boolean (f a))
  := by
  use x.map f
  rw [Option.map_map]
  rfl

theorem isTruth_bind {α : Type} {x : Option α} {f : α → Option Value} (h : ∀ a, IsTruth (f a)) :
  IsTruth (x >>= f)
  := by
  cases x with
  | none => apply isTruth_none
  | some a => apply h a

theorem isTruth_stringTest? (test : List Char → List Char → Bool) (v w : Value) :
  IsTruth (stringTest? test v w)
  := by
  apply isTruth_bind
  rintro ⟨s, l⟩
  apply isTruth_bind
  rintro ⟨t, m⟩
  dsimp only
  split
  · apply isTruth_boolean
  · apply isTruth_none

theorem isTruth_regexTest? (text pattern flags : Value) :
  IsTruth (regexTest? text pattern flags)
  := by
  unfold regexTest?
  split
  · apply isTruth_bind
    intro r
    apply isTruth_bind
    rintro ⟨s, l⟩
    apply isTruth_boolean
  · apply isTruth_none

/-- The functions that are said to return truth values do so, or fail. -/
theorem isTruth_apply? {f : Function} (hf : Expression.returnsTruth f = true) (vs : List Value) :
  IsTruth <| f.apply? vs
  := by
  fun_cases Function.apply? f vs with
  | case1 | case2 | case4 | case5 | case6 | case7 | case8 | case9 =>
    -- the functions whose results are no truth values
    cases hf
  | case3 | case13 | case14 | case15 | case16 => apply isTruth_boolean
  | case10 | case11 | case12 => apply isTruth_stringTest?
  | case17 | case18 => apply isTruth_regexTest?
  | case19 => apply isTruth_none

/-! ### The values of conjunctions and disjunctions -/

theorem allTrue_eq_false_iff {ts : List (Option Bool)} :
  allTrue ts = some false ↔ some false ∈ ts
  := by
  unfold allTrue
  split_ifs <;> simp_all

theorem anyTrue_eq_true_iff {ts : List (Option Bool)} :
  anyTrue ts = some true ↔ some true ∈ ts
  := by
  unfold anyTrue
  split_ifs <;> simp_all

theorem anyTrue_eq_false_iff {ts : List (Option Bool)} :
  anyTrue ts = some false ↔ ∀ t ∈ ts, t = some false
  := by
  induction ts with
  | nil => simp
  | cons t ts ih =>
    rw [anyTrue_cons, List.forall_mem_cons, ← ih]
    rcases t with _ | _ | _ <;> rcases anyTrue ts with _ | _ | _ <;> decide

namespace Expression

variable {e : Expression} {es kept : List Expression} {b : Binding}

/-! ### Disjunctions and negations -/

/-- The operands that are kept have the disjunction of all; a true one is missing only if they are
none. -/
theorem anyTrue_disjuncts? (es : List Expression) (b : Binding) :
  ((disjuncts? es).elim (some true) fun kept => anyTrue (truths b kept)) = anyTrue (truths b es)
  := by
  induction es with
  | nil => rfl
  | cons e es ih =>
    rw [disjuncts?, truths_cons, anyTrue_cons, ← ih]
    split
    · rename_i h
      simp [truthOn_of_truth? h b]
    · rename_i h
      simp [truthOn_of_truth? h b]
    · cases disjuncts? es with
      | none => simp
      | some kept =>
        simp only [Option.map_some, Option.elim_some]
        split
        · rw [truths_append, anyTrue_append, truthOn_or]
        · rw [truths_cons, anyTrue_cons]

/-- A disjunction has the truth value of its operands. -/
theorem truthOn_orAll (es : List Expression) (b : Binding) :
  (orAll es).truthOn b = anyTrue (truths b es)
  := by
  rw [orAll, ← anyTrue_disjuncts?]
  split
  · rename_i h
    simp [h]
  · rename_i h
    simp [h]
  · rename_i e h
    simp [h, truthOn_toCondition, anyTrue_cons]
  · rename_i h
    simp [h, truthOn_or]

theorem truthOn_negation (e : Expression) (b : Binding) :
  (negation e).truthOn b = (e.truthOn b).map Bool.not
  := by
  rw [negation]
  split
  · rename_i h
    rw [truthOn_ofBool, truthOn_of_truth? h]
    rfl
  · apply truthOn_not

/-! ### Literals -/

mutual

/-- The literals of an expression, in the order in which they occur. -/
def literalList : Expression → List Literal
  | .iri _ => []
  | .literal l => [l]
  | .variable _ => []
  | .or es => literalLists es
  | .and es => literalLists es
  | .equal x y => literalList x ++ literalList y
  | .sameTerm x y => literalList x ++ literalList y
  | .compare _ x y => literalList x ++ literalList y
  | .arithmetic _ x y => literalList x ++ literalList y
  | .plus e => literalList e
  | .minus e => literalList e
  | .not e => literalList e
  | .bound _ => []
  | .choose x y z => literalList x ++ literalList y ++ literalList z
  | .coalesce es => literalLists es
  | .call _ es => literalLists es

/-- The literals of some expressions, in the order in which they occur. -/
def literalLists : List Expression → List Literal
  | [] => []
  | e :: es => literalList e ++ literalLists es

end

theorem literalLists_eq_flatMap (es : List Expression) :
  literalLists es = es.flatMap literalList
  := by
  induction es with
  | nil => rfl
  | cons e es ih => rw [literalLists, ih, List.flatMap_cons]

/-- The literal has the datatype of truth values and is none. -/
def isMalformedTruth (l : Literal) : Bool :=
  l.datatype = Datatype.boolean && (parseBoolean? l.value).isNone

/-- The literals of the datatype of truth values are truth values. -/
def WellFormed (e : Expression) : Prop :=
  ∀ l ∈ e.literalList, isMalformedTruth l = false

theorem forall_mem_literalLists :
  (∀ l ∈ literalLists es, isMalformedTruth l = false) ↔ ∀ e ∈ es, e.WellFormed
  := by
  simp only [WellFormed, literalLists_eq_flatMap, List.forall_mem_flatMap]

theorem wellFormed_and :
  (and es).WellFormed ↔ ∀ e ∈ es, e.WellFormed
  := forall_mem_literalLists

theorem wellFormed_or :
  (or es).WellFormed ↔ ∀ e ∈ es, e.WellFormed
  := forall_mem_literalLists

theorem wellFormed_choose {x y z : Expression} :
  (choose x y z).WellFormed ↔ x.WellFormed ∧ y.WellFormed ∧ z.WellFormed
  := by
  simp only [WellFormed, literalList, List.forall_mem_append, and_assoc]

theorem isTruth_ofLiteral {l : Literal} (hl : l.datatype = Datatype.boolean)
    (h : isMalformedTruth l = false) :
  IsTruth (some (.ofLiteral l))
  := by
  cases l with
  | simple s => exact absurd hl (by decide : Datatype.string ≠ Datatype.boolean)
  | tagged s language => exact absurd hl (by decide : Datatype.langString ≠ Datatype.boolean)
  | typed s datatype ne =>
    obtain rfl : datatype = Datatype.boolean := hl
    have hs : (parseBoolean? s).isSome = true := by
      simpa [isMalformedTruth, Literal.datatype, Literal.value] using h
    obtain ⟨t, ht⟩ := Option.isSome_iff_exists.1 hs
    have hvalue : typedValue? s Datatype.boolean = some (.boolean t) := by
      rw [typedValue?, if_pos rfl, ht]
      rfl
    rw [Value.ofLiteral, hvalue]
    apply isTruth_boolean

/-! ### Conditions -/

/-- What has the form of a condition evaluates to a truth value. -/
theorem isTruth_eval (he : e.isCondition = true) (hl : e.WellFormed) :
  IsTruth (e.eval b)
  := by
  induction e with
  | iri | variableOf | arithmetic | plus | minus | coalesce => cases he
  | literal l =>
    apply isTruth_ofLiteral
    · simpa [isCondition] using he
    · apply hl l
      apply List.mem_cons_self
  | or es => exact ⟨_, rfl⟩
  | and es => exact ⟨_, rfl⟩
  | equal x y => exact ⟨_, eval_equal b x y⟩
  | sameTerm x y =>
    apply isTruth_bind
    intro v
    apply isTruth_bind
    intro w
    apply isTruth_boolean
  | compare test x y =>
    apply isTruth_bind
    intro v
    apply isTruth_bind
    intro w
    apply isTruth_map
  | not e => apply isTruth_map
  | bound v => apply isTruth_boolean
  | choose x y z _ ihy ihz =>
    rw [isCondition, Bool.and_eq_true] at he
    rw [wellFormed_choose] at hl
    rw [eval]
    split
    · apply ihy he.1 hl.2.1
    · apply ihz he.2 hl.2.2
    · apply isTruth_none
  | call f es =>
    apply isTruth_bind
    intro vs
    apply isTruth_apply? he

theorem isTruth_toCondition (hl : e.WellFormed) :
  IsTruth (e.toCondition.eval b)
  := by
  rw [toCondition]
  split
  · rename_i he
    apply isTruth_eval he hl
  · exact ⟨_, rfl⟩

theorem isTruth_ofBool (t : Bool) :
  IsTruth ((ofBool t).eval b)
  := by
  cases t <;> apply isTruth_boolean

/-- The operands that a conjunction keeps are well formed if all are. -/
theorem wellFormed_of_mem_conjuncts? (h : conjuncts? es = some kept) (hes : ∀ e ∈ es, e.WellFormed) :
  ∀ e ∈ kept, e.WellFormed
  := by
  induction es generalizing kept with
  | nil =>
    cases h
    apply hes
  | cons e es ih =>
    rw [List.forall_mem_cons] at hes
    rw [conjuncts?] at h
    split at h
    · cases h
    · apply ih h hes.2
    · obtain ⟨rest, hrest, rfl⟩ := Option.map_eq_some_iff.1 h
      split
      · rw [List.forall_mem_append]
        use wellFormed_and.1 hes.1
        apply ih hrest hes.2
      · rw [List.forall_mem_cons]
        use hes.1
        apply ih hrest hes.2

/-- The operands that a disjunction keeps are well formed if all are. -/
theorem wellFormed_of_mem_disjuncts? (h : disjuncts? es = some kept) (hes : ∀ e ∈ es, e.WellFormed) :
  ∀ e ∈ kept, e.WellFormed
  := by
  induction es generalizing kept with
  | nil =>
    cases h
    apply hes
  | cons e es ih =>
    rw [List.forall_mem_cons] at hes
    rw [disjuncts?] at h
    split at h
    · cases h
    · apply ih h hes.2
    · obtain ⟨rest, hrest, rfl⟩ := Option.map_eq_some_iff.1 h
      split
      · rw [List.forall_mem_append]
        use wellFormed_or.1 hes.1
        apply ih hrest hes.2
      · rw [List.forall_mem_cons]
        use hes.1
        apply ih hrest hes.2

theorem isTruth_andAll (hes : ∀ e ∈ es, e.WellFormed) :
  IsTruth ((andAll es).eval b)
  := by
  rw [andAll]
  split
  · apply isTruth_ofBool
  · apply isTruth_ofBool
  · rename_i e h
    apply isTruth_toCondition
    apply wellFormed_of_mem_conjuncts? h hes e (by simp)
  · exact ⟨_, rfl⟩

theorem isTruth_orAll (hes : ∀ e ∈ es, e.WellFormed) :
  IsTruth ((orAll es).eval b)
  := by
  rw [orAll]
  split
  · apply isTruth_ofBool
  · apply isTruth_ofBool
  · rename_i e h
    apply isTruth_toCondition
    apply wellFormed_of_mem_disjuncts? h hes e (by simp)
  · exact ⟨_, rfl⟩

theorem eval_eq_of_isTruth (h : IsTruth (e.eval b)) :
  e.eval b = (e.truthOn b).map .boolean
  := by
  obtain ⟨t, ht⟩ := h
  rw [truthOn, ht, truthOf_boolean]

/-- A conjunction is true if all of its operands are, false if one of them is, and an error otherwise;
a disjunction is true if one of its operands is, false if all are, and an error otherwise.  A negation
exchanges true and false.  The conjunction of the conjuncts of a condition has its truth value.  If all
the literals of the datatype of truth values are truth values, conjunctions and disjunctions have their
truth values as their values. -/
theorem built_conditions :
  (∀ (es : List Expression) (b : Binding),
      (((andAll es).truthOn b = some true ↔ ∀ e ∈ es, e.truthOn b = some true)
        ∧ ((andAll es).truthOn b = some false ↔ ∃ e ∈ es, e.truthOn b = some false))
      ∧ ((orAll es).truthOn b = some true ↔ ∃ e ∈ es, e.truthOn b = some true)
        ∧ ((orAll es).truthOn b = some false ↔ ∀ e ∈ es, e.truthOn b = some false))
    ∧ (∀ (e : Expression) (b : Binding), (negation e).truthOn b = (e.truthOn b).map Bool.not
      ∧ (and e.conjunctList).truthOn b = e.truthOn b)
    ∧ ∀ es : List Expression, (∀ e ∈ es, e.WellFormed)
      → ∀ b, (andAll es).eval b = ((andAll es).truthOn b).map .boolean
        ∧ (orAll es).eval b = ((orAll es).truthOn b).map .boolean
  := by
  refine ⟨?_, ?_, ?_⟩
  · intro es b
    rw [truthOn_andAll, truthOn_orAll, allTrue_eq_true_iff, allTrue_eq_false_iff,
      anyTrue_eq_true_iff, anyTrue_eq_false_iff]
    simp [truths]
  · intro e b
    rw [truthOn_negation, truthOn_and, allTrue_conjunctList]
    use rfl
  · intro es hes b
    use eval_eq_of_isTruth (isTruth_andAll hes)
    apply eval_eq_of_isTruth (isTruth_orAll hes)

/-- A test of a name, which is false if there is none. -/
def nameTest : Expression :=
  .choose (.bound ⟨"name"⟩) (.call .contains [.variable ⟨"name"⟩, .literal (.simple "a")])
    (.literal (.ofDatatype "0" Datatype.boolean))

/-- The test among constants, in a conjunction of its own. -/
def nameTests : List Expression := [.literal (.simple "a"), .and [nameTest], ofBool true]

/-- Only the test is left over of the conjunction.  It stays as it is, since its value can only be a
truth value. -/
theorem built_conditions_nameTests :
  andAll nameTests = nameTest ∧ ∀ b, nameTest.eval b = (nameTest.truthOn b).map .boolean
  := by
  have hsingle : andAll nameTests = nameTest := rfl
  have hwell : ∀ e ∈ nameTests, e.WellFormed := by
    unfold WellFormed
    decide
  use hsingle
  intro b
  rw [← hsingle]
  apply (built_conditions.2.2 _ hwell b).1

end Expression

end RelGraph.Sparql
