import RelGraph.Proofs.Order.Canonical
import RelGraph.Proofs.Sql.Conditions

/-!
# Normal forms of expressions

The simplifying constructors give expressions in a normal form: the operands of a conjunction or a
disjunction increase strictly, there are at least two of them, and none of them could be simplified
away; a comparison has two different sides in increasing order.
-/

namespace RelGraph.Sql.Expr

open Spelled

/-! ### Normal forms -/

/-- What the simplifying constructors build. -/
inductive Built : Expr → Prop
  | always : Built .always
  | never : Built .never
  | column (c : Column) : Built (.column c)
  | constant (s : String) : Built (.constant s)
  | concatOf {es : List Expr} (h : ∀ e ∈ es, Built e) : Built (concatOf es)
  | andAll {es : List Expr} (h : ∀ e ∈ es, Built e) : Built (andAll es)
  | orAll {es : List Expr} (h : ∀ e ∈ es, Built e) : Built (orAll es)
  | notOf {e : Expr} (h : Built e) : Built (notOf e)
  | equalOf {a b : Expr} (ha : Built a) (hb : Built b) : Built (equalOf a b)
  | isNotNull {e : Expr} (h : Built e) : Built (.isNotNull e)

/-- The outermost constructor of an expression, with the text of a constant. -/
inductive Form where
  | always
  | never
  | column
  | constant (s : String)
  | concat
  | and
  | or
  | not
  | equal
  | isNotNull
  deriving DecidableEq

variable {e : Expr} {es : List Expr} {P : Expr → Prop}

/-- The form of an expression. -/
def form : Expr → Form
  | .always => .always
  | .never => .never
  | .column _ => .column
  | .constant s => .constant s
  | .concat _ => .concat
  | .and _ => .and
  | .or _ => .or
  | .not _ => .not
  | .equal _ _ => .equal
  | .isNotNull _ => .isNotNull

/-- The expression can be an operand of a conjunction. -/
def isConjunct (e : Expr) : Bool := e.form ∉ [.always, .never, .and]

/-- The expression can be an operand of a disjunction. -/
def isDisjunct (e : Expr) : Bool := e.form ∉ [.always, .never, .or]

/-- The expression can be negated. -/
def isNegatable (e : Expr) : Bool := e.form ∉ [.always, .never, .not]

/-- The comparison of two expressions is decided by their forms. -/
def areConstants (a b : Expr) : Bool :=
  match a.form, b.form with
  | .constant _, .constant _ => true
  | _, _ => false

/-- The normal form of expressions. -/
inductive Normal : Expr → Prop
  | always : Normal .always
  | never : Normal .never
  | column (c : Column) : Normal (.column c)
  | constant (s : String) : Normal (.constant s)
  | concat {es : List Expr} (h : ∀ e ∈ es, Normal e) (hlength : 2 ≤ es.length)
      (hform : ∀ e ∈ es, e.form ≠ .constant "") : Normal (.concat es)
  | and {es : List Expr} (h : ∀ e ∈ es, Normal e) (hlength : 2 ≤ es.length)
      (hincreasing : Increasing es) (hform : ∀ e ∈ es, e.isConjunct = true) : Normal (.and es)
  | or {es : List Expr} (h : ∀ e ∈ es, Normal e) (hlength : 2 ≤ es.length)
      (hincreasing : Increasing es) (hform : ∀ e ∈ es, e.isDisjunct = true) : Normal (.or es)
  | not {e : Expr} (h : Normal e) (hform : e.isNegatable = true) : Normal (.not e)
  | equal {a b : Expr} (ha : Normal a) (hb : Normal b) (hne : a ≠ b) (hle : le a b = true)
      (hform : areConstants a b = false) : Normal (.equal a b)
  | isNotNull {e : Expr} (h : Normal e) : Normal (.isNotNull e)

theorem form_eq_constant {s : String} :
  e.form = .constant s ↔ e = .constant s
  := by
  cases e <;> simp [form]

theorem form_eq_never :
  e.form = .never ↔ e = .never
  := by
  cases e <;> simp [form]

theorem notOf_of_isNegatable (h : e.isNegatable = true) :
  notOf e = .not e
  := by
  cases e <;> simp [isNegatable, form] at h <;> rfl

theorem concatOf_of_form_ne (h : ∀ e ∈ es, e.form ≠ .constant "") (hlength : 2 ≤ es.length) :
  concatOf es = .concat es
  := by
  have hfilter : es.filter (fun e => e ≠ .constant "") = es := by
    rw [List.filter_eq_self]
    intro e he
    simpa [form_eq_constant] using h e he
  rw [concatOf, hfilter]
  split
  · simp at hlength
  · simp at hlength
  · rfl

theorem equalOf_of_ne {a b : Expr} (hne : a ≠ b) (hform : areConstants a b = false) :
  equalOf a b = if le a b then .equal a b else .equal b a
  := by
  unfold equalOf
  split
  · simp [areConstants, form] at hform
  · rw [if_neg hne]

/-! ### Operands that stay -/

namespace Junction

/-- The expression can be an operand. -/
def isOperand : Junction → Expr → Bool
  | .and => isConjunct
  | .or => isDisjunct

variable (j : Junction)

theorem isOperand_iff :
  j.isOperand e = true ↔ e ≠ j.neutral ∧ e ≠ j.absorbing ∧ ∀ inner, e ≠ j.node inner
  := by
  cases j <;> cases e <;> simp [isOperand, isConjunct, isDisjunct, form, neutral, absorbing, node]

theorem eq_or_isOperand (e : Expr) :
  e = j.neutral ∨ e = j.absorbing ∨ (∃ inner, e = j.node inner) ∨ j.isOperand e = true
  := by
  rw [isOperand_iff]
  grind

theorem operands_of_isOperand (h : ∀ e ∈ es, j.isOperand e = true) :
  j.operands es = es
  := by
  induction es with
  | nil => rw [operands_nil]
  | cons e es ih =>
    rw [List.forall_mem_cons, isOperand_iff] at h
    obtain ⟨⟨hneutral, -, hnode⟩, hes⟩ := h
    rw [operands_cons_of_ne j hneutral hnode, ih hes]

/-- At least two operands that can not be simplified away stay. -/
theorem all_of_isOperand (h : ∀ e ∈ es, j.isOperand e = true)
    (hlength : 2 ≤ (canonical es).length) :
  j.all es = j.node (canonical es)
  := by
  have habsorbing : j.absorbing ∉ es := by
    intro hmem
    apply (j.isOperand_iff.1 (h _ hmem)).2.1 rfl
  rw [all_eq, if_neg habsorbing, operands_of_isOperand j h, collapse_of_two_le j hlength]

/-- The operands of nested expressions can not be simplified. -/
def Flat (es : List Expr) : Prop :=
  ∀ inner, j.node inner ∈ es → ∀ e ∈ inner, j.isOperand e = true

/-- The operands that are left can not be simplified if the nested ones can not. -/
theorem isOperand_of_mem (hes : j.Flat es) (habsorbing : j.absorbing ∉ es)
    (he : e ∈ j.operands es) :
  j.isOperand e = true
  := by
  obtain ⟨he, hneutral, hnode⟩ | ⟨inner, hinner, he⟩ := j.mem_operands.1 he
  · rw [isOperand_iff]
    refine ⟨hneutral, ?_, hnode⟩
    rintro rfl
    apply habsorbing he
  · apply hes inner hinner e he

/-- What holds of the operands holds of the simplified expression: it has to hold of the constants,
and to pass to the operands of an expression and from at least two operands that increase and can
not be simplified. -/
theorem all_induct (h : ∀ e ∈ es, P e) (hneutral : P j.neutral) (habsorbing : P j.absorbing)
    (hinner : ∀ inner, P (j.node inner) → ∀ e ∈ inner, P e ∧ j.isOperand e = true)
    (hnode : ∀ es, (∀ e ∈ es, P e) → 2 ≤ es.length → Increasing es
      → (∀ e ∈ es, j.isOperand e = true) → P (j.node es)) :
  P (j.all es)
  := by
  rw [all_eq]
  split
  · apply habsorbing
  · rename_i hmem
    have hoperand : ∀ e ∈ canonical (j.operands es), j.isOperand e = true := by
      intro e he
      apply j.isOperand_of_mem (fun inner hmem e he => (hinner inner (h _ hmem) e he).2) hmem
      apply mem_canonical.1 he
    have hP : ∀ e ∈ canonical (j.operands es), P e := by
      intro e he
      obtain ⟨he, -⟩ | ⟨inner, hmem, he⟩ := j.mem_operands.1 (mem_canonical.1 he)
      · apply h e he
      · apply (hinner inner (h _ hmem) e he).1
    have hincreasing := increasing_canonical (j.operands es)
    generalize canonical (j.operands es) = ops at hoperand hP hincreasing ⊢
    obtain _ | ⟨a, _ | ⟨b, ops⟩⟩ := ops
    · apply hneutral
    · apply hP a (List.mem_singleton_self a)
    · apply hnode _ hP (by simp) hincreasing hoperand

end Junction

theorem andAll_of_isConjunct (h : ∀ e ∈ es, e.isConjunct = true)
    (hlength : 2 ≤ (canonical es).length) :
  andAll es = .and (canonical es)
  := Junction.all_of_isOperand .and h hlength

theorem orAll_of_isDisjunct (h : ∀ e ∈ es, e.isDisjunct = true)
    (hlength : 2 ≤ (canonical es).length) :
  orAll es = .or (canonical es)
  := Junction.all_of_isOperand .or h hlength

/-! ### Building normal forms -/

theorem normal_andAll (h : ∀ e ∈ es, Normal e) :
  Normal (andAll es)
  := by
  apply Junction.all_induct .and h .always .never
  · intro inner hinner e he
    cases hinner with
    | and hinner _ _ hform => use hinner e he, hform e he
  · intro es hes hlength hincreasing hform
    apply Normal.and hes hlength hincreasing hform

theorem normal_orAll (h : ∀ e ∈ es, Normal e) :
  Normal (orAll es)
  := by
  apply Junction.all_induct .or h .never .always
  · intro inner hinner e he
    cases hinner with
    | or hinner _ _ hform => use hinner e he, hform e he
  · intro es hes hlength hincreasing hform
    apply Normal.or hes hlength hincreasing hform

/-- A negation is the operand of a negation, or a constant, or the negation of what is none of
these. -/
theorem notOf_induct (h : P e) (halways : P .always) (hnever : P .never)
    (hinner : ∀ x, P (.not x) → P x) (hnot : ∀ x, P x → x.isNegatable = true → P (.not x)) :
  P (notOf e)
  := by
  by_cases hform : e.isNegatable = true
  · rw [notOf_of_isNegatable hform]
    apply hnot e h hform
  · cases e <;> simp [isNegatable, form] at hform
    · apply hnever
    · apply halways
    · apply hinner _ h

theorem areConstants_comm (a b : Expr) :
  areConstants a b = areConstants b a
  := by
  cases a <;> cases b <;> rfl

/-- A comparison is a constant, or it compares different expressions in their order. -/
theorem equalOf_induct {a b : Expr} (halways : P .always) (hnever : P .never)
    (hequal : ∀ x y, x = a ∧ y = b ∨ x = b ∧ y = a → x ≠ y → le x y = true
      → areConstants x y = false → P (.equal x y)) :
  P (equalOf a b)
  := by
  unfold equalOf
  split
  · rw [ofBool]
    split
    · apply halways
    · apply hnever
  · rename_i hconstants
    have hform : areConstants a b = false := by
      cases a <;> cases b <;> try rfl
      exact absurd rfl (hconstants _ _ rfl)
    split
    · apply halways
    · rename_i hne
      split
      · rename_i hle
        apply hequal a b (Or.inl ⟨rfl, rfl⟩) hne hle hform
      · rename_i hle
        apply hequal b a (Or.inr ⟨rfl, rfl⟩) (Ne.symm hne) (le_of_not_le hle)
        rw [areConstants_comm, hform]

/-- A concatenation is a single part, or has no empty constant. -/
theorem concatOf_induct (h : ∀ e ∈ es, P e) (hempty : P (.constant ""))
    (hconcat : ∀ es, (∀ e ∈ es, P e) → 2 ≤ es.length → (∀ e ∈ es, e.form ≠ .constant "")
      → P (.concat es)) :
  P (concatOf es)
  := by
  have hparts : ∀ e ∈ es.filter (fun e => e ≠ .constant ""), P e ∧ e.form ≠ .constant "" := by
    intro e he
    rw [List.mem_filter] at he
    use h e he.1
    rw [ne_eq, form_eq_constant]
    simpa using he.2
  rw [concatOf]
  split
  · apply hempty
  · rename_i e heq
    apply (hparts e (by rw [heq]; simp)).1
  · rename_i hnil hsingle
    apply hconcat _ (fun e he => (hparts e he).1) _ fun e he => (hparts e he).2
    apply two_le_length hnil hsingle

theorem normal_notOf (h : Normal e) :
  Normal (notOf e)
  := by
  apply notOf_induct h .always .never
  · intro x hx
    cases hx with
    | not hx _ => apply hx
  · intro x hx hform
    apply Normal.not hx hform

theorem normal_equalOf {a b : Expr} (ha : Normal a) (hb : Normal b) :
  Normal (equalOf a b)
  := by
  apply equalOf_induct .always .never
  rintro x y (⟨rfl, rfl⟩ | ⟨rfl, rfl⟩) hne hle hform
  · apply Normal.equal ha hb hne hle hform
  · apply Normal.equal hb ha hne hle hform

theorem normal_concatOf (h : ∀ e ∈ es, Normal e) :
  Normal (concatOf es)
  := by
  apply concatOf_induct h (.constant "")
  intro es hes hlength hform
  apply Normal.concat hes hlength hform

/-- The simplifying constructors build normal forms. -/
theorem Built.normal (h : Built e) :
  Normal e
  := by
  induction h with
  | always => apply Normal.always
  | never => apply Normal.never
  | column c => apply Normal.column
  | constant s => apply Normal.constant
  | concatOf _ ih => apply normal_concatOf ih
  | andAll _ ih => apply normal_andAll ih
  | orAll _ ih => apply normal_orAll ih
  | notOf _ ih => apply normal_notOf ih
  | equalOf _ _ iha ihb => apply normal_equalOf iha ihb
  | isNotNull _ ih => apply Normal.isNotNull ih

/-- A normal form is what the simplifying constructors build from its operands. -/
theorem Normal.built (h : Normal e) :
  Built e
  := by
  induction h with
  | always => apply Built.always
  | never => apply Built.never
  | column c => apply Built.column
  | constant s => apply Built.constant
  | concat _ hlength hform ih =>
    rw [← concatOf_of_form_ne hform hlength]
    apply Built.concatOf ih
  | and _ hlength hincreasing hform ih =>
    rw [← canonical_of_increasing hincreasing] at hlength ⊢
    rw [← andAll_of_isConjunct hform hlength]
    apply Built.andAll ih
  | or _ hlength hincreasing hform ih =>
    rw [← canonical_of_increasing hincreasing] at hlength ⊢
    rw [← orAll_of_isDisjunct hform hlength]
    apply Built.orAll ih
  | not _ hform ih =>
    rw [← notOf_of_isNegatable hform]
    apply Built.notOf ih
  | @equal a b _ _ hne hle hform iha ihb =>
    have heq : equalOf a b = .equal a b := by
      rw [equalOf_of_ne hne hform, if_pos hle]
    rw [← heq]
    apply Built.equalOf iha ihb
  | isNotNull _ ih => apply Built.isNotNull ih

theorem normal_iff_built :
  Normal e ↔ Built e
  := ⟨Normal.built, Built.normal⟩

end RelGraph.Sql.Expr
