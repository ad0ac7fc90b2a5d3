import RelGraph.Proofs.Sql.Evaluation

/-!
# Conjunctions and disjunctions alike

Conjunctions and disjunctions are simplified in the same way, with the constants exchanged.  What
holds of both is said here once, of a junction: which operands are left, what they are worth
together, and what passes from the operands to the simplified condition.
-/

namespace RelGraph.Sql.Expr

open Sparql

/-- The two ways of joining conditions. -/
inductive Junction where
  | and
  | or

namespace Junction

/-- The condition that is left out. -/
def neutral : Junction → Expr
  | .and => .always
  | .or => .never

/-- The condition that decides. -/
def absorbing : Junction → Expr
  | .and => .never
  | .or => .always

/-- The expression with some operands, as it is. -/
def node : Junction → List Expr → Expr
  | .and => .and
  | .or => .or

/-- The operands without neutral ones, and with those of nested expressions in place of these. -/
def operands : Junction → List Expr → List Expr
  | .and => conjuncts
  | .or => disjuncts

/-- The simplified expression with some operands. -/
def all : Junction → List Expr → Expr
  | .and => andAll
  | .or => orAll

/-- What some truth values are worth together. -/
def truth : Junction → List (Option Bool) → Option Bool
  | .and => allTrue
  | .or => anyTrue

/-- The expression with some operands that can not be simplified any more. -/
def collapse (j : Junction) : List Expr → Expr
  | [] => j.neutral
  | [e] => e
  | es => j.node es

variable (j : Junction) {es fs : List Expr} {e : Expr}

theorem all_eq (es : List Expr) :
  j.all es = if j.absorbing ∈ es then j.absorbing else j.collapse (canonical (j.operands es))
  := by
  cases j <;> rfl

theorem absorbing_ne_neutral :
  j.absorbing ≠ j.neutral
  := by
  cases j <;> simp [absorbing, neutral]

theorem absorbing_ne_node (inner : List Expr) :
  j.absorbing ≠ j.node inner
  := by
  cases j <;> simp [absorbing, node]

theorem node_ne_neutral (inner : List Expr) :
  j.node inner ≠ j.neutral
  := by
  cases j <;> simp [node, neutral]

theorem node_inj {inner inner' : List Expr} :
  j.node inner = j.node inner' ↔ inner = inner'
  := by
  cases j <;> simp [node]

theorem collapse_of_two_le (h : 2 ≤ es.length) :
  j.collapse es = j.node es
  := by
  obtain _ | ⟨a, _ | ⟨b, es⟩⟩ := es
  · simp at h
  · simp at h
  · rfl

/-! ### Operands -/

@[simp]
theorem operands_nil :
  j.operands [] = []
  := by
  cases j <;> rfl

@[simp]
theorem operands_cons_neutral (es : List Expr) :
  j.operands (j.neutral :: es) = j.operands es
  := by
  cases j <;> rfl

@[simp]
theorem operands_cons_node (inner es : List Expr) :
  j.operands (j.node inner :: es) = inner ++ j.operands es
  := by
  cases j <;> rfl

theorem operands_cons_of_ne (hneutral : e ≠ j.neutral) (hnode : ∀ inner, e ≠ j.node inner)
    (es : List Expr) :
  j.operands (e :: es) = e :: j.operands es
  := by
  cases j with
  | and =>
    cases e with
    | always => exact absurd rfl hneutral
    | and inner => exact absurd rfl (hnode inner)
    | _ => rfl
  | or =>
    cases e with
    | never => exact absurd rfl hneutral
    | or inner => exact absurd rfl (hnode inner)
    | _ => rfl

/-- Induction on a list along its operands: the first member is neutral, nested, or kept. -/
theorem operands_induct {motive : List Expr → Prop} (nil : motive [])
    (neutral : ∀ es, motive es → motive (j.neutral :: es))
    (node : ∀ inner es, motive es → motive (j.node inner :: es))
    (other : ∀ e es, e ≠ j.neutral → (∀ inner, e ≠ j.node inner) → motive es → motive (e :: es))
    (es : List Expr) :
  motive es
  := by
  induction es with
  | nil => apply nil
  | cons e es ih =>
    by_cases hneutral : e = j.neutral
    · rw [hneutral]
      apply neutral es ih
    · by_cases hnode : ∃ inner, e = j.node inner
      · obtain ⟨inner, rfl⟩ := hnode
        apply node inner es ih
      · apply other e es hneutral (not_exists.1 hnode) ih

/-- An operand is a member that is kept, or an operand of a nested expression. -/
theorem mem_operands {x : Expr} :
  x ∈ j.operands es ↔ (x ∈ es ∧ x ≠ j.neutral ∧ ∀ inner, x ≠ j.node inner)
    ∨ ∃ inner, j.node inner ∈ es ∧ x ∈ inner
  := by
  induction es using j.operands_induct with
  | nil => simp
  | neutral es ih =>
    rw [operands_cons_neutral, ih]
    grind [j.node_ne_neutral]
  | node inner es ih =>
    rw [operands_cons_node, List.mem_append, ih]
    grind [j.node_inj]
  | other e es hneutral hnode ih =>
    rw [operands_cons_of_ne j hneutral hnode, List.mem_cons, ih]
    grind

theorem mem_operands_append {x : Expr} :
  x ∈ j.operands (es ++ fs) ↔ x ∈ j.operands es ∨ x ∈ j.operands fs
  := by
  simp only [mem_operands, List.mem_append]
  grind

theorem all_congr (habsorbing : j.absorbing ∈ es ↔ j.absorbing ∈ fs)
    (h : ∀ x, x ∈ j.operands es ↔ x ∈ j.operands fs) :
  j.all es = j.all fs
  := by
  simp only [all_eq, habsorbing, canonical_congr h]

/-- The simplified expression depends on the members only. -/
theorem all_congr_mem (h : ∀ x, x ∈ es ↔ x ∈ fs) :
  j.all es = j.all fs
  := by
  apply j.all_congr (h _)
  intro x
  simp only [mem_operands, h]

/-- Neutral operands join to the neutral condition. -/
theorem all_eq_neutral (h : ∀ e ∈ es, e = j.neutral) :
  j.all es = j.neutral
  := by
  have habsorbing : j.absorbing ∉ es := by
    intro hmem
    apply j.absorbing_ne_neutral (h _ hmem)
  have hnone : j.operands es = [] := by
    rw [List.eq_replicate_of_mem h]
    induction es.length with
    | zero => apply operands_nil
    | succ k ih => rw [List.replicate_succ, operands_cons_neutral, ih]
  rw [all_eq, if_neg habsorbing, hnone]
  rfl

/-! ### Properties of all operands

A property that the neutral condition has, and that an expression has exactly if all its operands
have it. -/

section

variable {P : Expr → Prop}

theorem forall_mem_operands (hneutral : P j.neutral)
    (hnode : ∀ inner, P (j.node inner) ↔ ∀ e ∈ inner, P e) :
  (∀ e ∈ j.operands es, P e) ↔ ∀ e ∈ es, P e
  := by
  induction es using j.operands_induct with
  | nil => rw [operands_nil]
  | neutral es ih => simp only [operands_cons_neutral, ih, List.forall_mem_cons, hneutral, true_and]
  | node inner es ih =>
    simp only [operands_cons_node, List.forall_mem_append, ih, List.forall_mem_cons, hnode]
  | other e es hneutral' hnode' ih =>
    rw [operands_cons_of_ne j hneutral' hnode', List.forall_mem_cons, ih, List.forall_mem_cons]

theorem collapse_iff (hneutral : P j.neutral)
    (hnode : ∀ inner, P (j.node inner) ↔ ∀ e ∈ inner, P e) :
  P (j.collapse es) ↔ ∀ e ∈ es, P e
  := by
  obtain _ | ⟨a, _ | ⟨b, es⟩⟩ := es
  · simpa [collapse] using hneutral
  · simp [collapse]
  · apply hnode

/-- Unless an operand decides, the simplified expression has the property exactly if all operands
have it. -/
theorem all_iff (hneutral : P j.neutral) (hnode : ∀ inner, P (j.node inner) ↔ ∀ e ∈ inner, P e)
    (h : j.absorbing ∉ es) :
  P (j.all es) ↔ ∀ e ∈ es, P e
  := by
  rw [all_eq, if_neg h, collapse_iff j hneutral hnode]
  simp only [mem_canonical]
  apply j.forall_mem_operands hneutral hnode

theorem all_of_iff (h : ∀ e ∈ es, P e) (hneutral : P j.neutral) (habsorbing : P j.absorbing)
    (hnode : ∀ inner, P (j.node inner) ↔ ∀ e ∈ inner, P e) :
  P (j.all es)
  := by
  by_cases hmem : j.absorbing ∈ es
  · rw [all_eq, if_pos hmem]
    apply habsorbing
  · apply (j.all_iff hneutral hnode hmem).2 h

end

/-! ### Truth values -/

section

variable {row : Row} {ss ts : List (Option Bool)}

/-- The truth value depends on the members only. -/
theorem truth_congr (h : ∀ t, t ∈ ss ↔ t ∈ ts) :
  j.truth ss = j.truth ts
  := by
  cases j <;> simp only [truth, allTrue, anyTrue, h]

theorem truth_map_canonical (x : Expr → Option Bool) (es : List Expr) :
  j.truth ((canonical es).map x) = j.truth (es.map x)
  := by
  apply j.truth_congr
  simp

theorem truth_singleton (t : Option Bool) :
  j.truth [t] = t
  := by
  cases j <;> rcases t with _ | _ | _ <;> rfl

theorem truth_cons (t : Option Bool) (ts : List (Option Bool)) :
  j.truth (t :: ts) = j.truth [t, j.truth ts]
  := by
  cases j with
  | and => apply allTrue_cons
  | or => apply anyTrue_cons

theorem truth_append (ss ts : List (Option Bool)) :
  j.truth (ss ++ ts) = j.truth [j.truth ss, j.truth ts]
  := by
  cases j with
  | and => apply allTrue_append
  | or => apply anyTrue_append

theorem truth_cons_neutral (ts : List (Option Bool)) :
  j.truth (truthOn row j.neutral :: ts) = j.truth ts
  := by
  rw [truth_cons]
  cases j with
  | and => apply true_both
  | or => apply false_either

theorem truth_of_absorbing_mem (h : truthOn row j.absorbing ∈ ts) :
  j.truth ts = truthOn row j.absorbing
  := by
  cases j with
  | and => apply if_pos h
  | or => apply if_pos h

theorem isSome_truth (h : none ∉ ts) :
  (j.truth ts).isSome = true
  := by
  cases j with
  | and =>
    rw [truth, allTrue, if_neg h]
    split <;> rfl
  | or =>
    rw [truth, anyTrue, if_neg h]
    split <;> rfl

theorem truthOn_node (row : Row) (es : List Expr) :
  truthOn row (j.node es) = j.truth (es.map (truthOn row))
  := by
  cases j with
  | and => apply truthOn_and
  | or => apply truthOn_or

theorem truthOn_collapse (row : Row) (es : List Expr) :
  truthOn row (j.collapse es) = j.truth (es.map (truthOn row))
  := by
  obtain _ | ⟨a, _ | ⟨b, es⟩⟩ := es
  · cases j <;> rfl
  · rw [collapse, List.map_singleton, truth_singleton]
  · apply truthOn_node

theorem truth_operands (row : Row) (es : List Expr) :
  j.truth ((j.operands es).map (truthOn row)) = j.truth (es.map (truthOn row))
  := by
  induction es using j.operands_induct with
  | nil => rw [operands_nil]
  | neutral es ih => rw [operands_cons_neutral, ih, List.map_cons, truth_cons_neutral]
  | node inner es ih =>
    rw [operands_cons_node, List.map_append, truth_append, ih, List.map_cons,
      j.truth_cons (truthOn row (j.node inner)), truthOn_node]
  | other e es hneutral hnode ih =>
    rw [operands_cons_of_ne j hneutral hnode, List.map_cons, truth_cons, ih, ← truth_cons,
      List.map_cons]

/-- The simplified expression has the truth value of its operands. -/
theorem truthOn_all (row : Row) (es : List Expr) :
  truthOn row (j.all es) = j.truth (es.map (truthOn row))
  := by
  rw [all_eq]
  split
  · rename_i h
    rw [j.truth_of_absorbing_mem (List.mem_map.2 ⟨_, h, rfl⟩)]
  · rw [truthOn_collapse, truth_map_canonical, truth_operands]

end

/-! ### Columns -/

theorem mem_columnList_node {c : Column} :
  c ∈ (j.node es).columnList ↔ ∃ e ∈ es, c ∈ e.columnList
  := by
  cases j <;> rw [node, columnList, columnLists_eq_flatMap, List.mem_flatMap]

/-- Unless an operand decides, the columns of all of them are mentioned. -/
theorem mem_columnList_all {c : Column} (h : j.absorbing ∉ es) :
  c ∈ (j.all es).columnList ↔ ∃ e ∈ es, c ∈ e.columnList
  := by
  have hneutral : c ∉ j.neutral.columnList := by
    cases j <;> simp [neutral, columnList]
  have hnode : ∀ inner, c ∉ (j.node inner).columnList ↔ ∀ e ∈ inner, c ∉ e.columnList := by
    simp [mem_columnList_node]
  rw [← not_iff_not, j.all_iff (P := fun e => c ∉ e.columnList) hneutral hnode h]
  simp

end Junction

end RelGraph.Sql.Expr
