import Mathlib.Data.Set.Insert
import RelGraph.Proofs.Sql.Renaming

/-!
# Simplified expressions

An expression is simplified if none of its conditions can be simplified any more; its
concatenations may be any.  The simplifying constructors and the renaming of columns give
simplified expressions for simplified operands.  On these a conjunction depends on the set of its
operands only, where those of nested conjunctions count in place of these and true ones do not
count; so it is idempotent, commutative and associative.  Disjunctions are alike
(`Expr.simplified_laws`).
-/

namespace RelGraph.Sql.Expr

open Spelled

/-- Every conjunction in the expression has at least two operands, which increase strictly and are
neither constants nor conjunctions, and every disjunction likewise; no constant and no negation is
negated; and what is compared increases strictly and is not made of two texts. -/
inductive Simplified : Expr → Prop
  | always : Simplified .always
  | never : Simplified .never
  | column (c : Column) : Simplified (.column c)
  | constant (s : String) : Simplified (.constant s)
  | concat {es : List Expr} (h : ∀ e ∈ es, Simplified e) : Simplified (.concat es)
  | and {es : List Expr} (h : ∀ e ∈ es, Simplified e) (hlength : 2 ≤ es.length)
      (hincreasing : Increasing es) (hform : ∀ e ∈ es, e.isConjunct = true) : Simplified (.and es)
  | or {es : List Expr} (h : ∀ e ∈ es, Simplified e) (hlength : 2 ≤ es.length)
      (hincreasing : Increasing es) (hform : ∀ e ∈ es, e.isDisjunct = true) : Simplified (.or es)
  | not {e : Expr} (h : Simplified e) (hform : e.isNegatable = true) : Simplified (.not e)
  | equal {a b : Expr} (ha : Simplified a) (hb : Simplified b) (hlt : ordering a b = .lt)
      (hform : areConstants a b = false) : Simplified (.equal a b)
  | isNotNull {e : Expr} (h : Simplified e) : Simplified (.isNotNull e)

variable {es fs : List Expr} {e a b : Expr}

/-! ### Building simplified expressions -/

theorem simplified_node_iff (j : Junction) :
  Simplified (j.node es) ↔ (∀ e ∈ es, Simplified e) ∧ 2 ≤ es.length ∧ Increasing es
    ∧ ∀ e ∈ es, j.isOperand e = true
  := by
  cases j with
  | and =>
    constructor
    · rintro ⟨⟩
      rename_i h hlength hincreasing hform
      use h, hlength, hincreasing, hform
    · rintro ⟨h, hlength, hincreasing, hform⟩
      apply Simplified.and h hlength hincreasing hform
  | or =>
    constructor
    · rintro ⟨⟩
      rename_i h hlength hincreasing hform
      use h, hlength, hincreasing, hform
    · rintro ⟨h, hlength, hincreasing, hform⟩
      apply Simplified.or h hlength hincreasing hform

theorem simplified_all (j : Junction) (h : ∀ e ∈ es, Simplified e) :
  Simplified (j.all es)
  := by
  apply j.all_induct h
  · cases j
    · apply Simplified.always
    · apply Simplified.never
  · cases j
    · apply Simplified.never
    · apply Simplified.always
  · intro inner hinner e he
    rw [simplified_node_iff] at hinner
    use hinner.1 e he, hinner.2.2.2 e he
  · intro es hes hlength hincreasing hform
    rw [simplified_node_iff]
    use hes, hlength, hincreasing, hform

theorem simplified_notOf (h : Simplified e) :
  Simplified (notOf e)
  := by
  apply notOf_induct h .always .never
  · intro x hx
    cases hx with
    | not hx _ => apply hx
  · intro x hx hform
    apply Simplified.not hx hform

theorem simplified_equalOf (ha : Simplified a) (hb : Simplified b) :
  Simplified (equalOf a b)
  := by
  apply equalOf_induct .always .never
  rintro x y (⟨rfl, rfl⟩ | ⟨rfl, rfl⟩) hne hle hform
  · apply Simplified.equal ha hb (ordering_lt_of_le hle hne) hform
  · apply Simplified.equal hb ha (ordering_lt_of_le hle hne) hform

theorem simplified_concatOf (h : ∀ e ∈ es, Simplified e) :
  Simplified (concatOf es)
  := by
  apply concatOf_induct h (.constant "")
  intro es hes _ _
  apply Simplified.concat hes

/-- Renaming simplifies again where columns become equal. -/
theorem simplified_rename (f : Column → Column) (h : Simplified e) :
  Simplified (rename f e)
  := by
  induction h with
  | always => apply Simplified.always
  | never => apply Simplified.never
  | column c => apply Simplified.column
  | constant s => apply Simplified.constant
  | concat _ ih =>
    rw [rename_concat_eq]
    apply simplified_concatOf (List.forall_mem_map.2 ih)
  | and _ _ _ _ ih =>
    rw [rename_and_eq]
    apply simplified_all .and (List.forall_mem_map.2 ih)
  | or _ _ _ _ ih =>
    rw [rename_or_eq]
    apply simplified_all .or (List.forall_mem_map.2 ih)
  | not _ _ ih => apply simplified_notOf ih
  | equal _ _ _ _ iha ihb => apply simplified_equalOf iha ihb
  | isNotNull _ ih => apply Simplified.isNotNull ih

/-! ### The operands decide -/

namespace Junction

variable (j : Junction)

/-- The members of a list, with the operands of nested expressions in place of these. -/
def flatten (es : List Expr) : Set Expr :=
  {x | x ∈ es ∧ ∀ inner, x ≠ j.node inner} ∪ {x | ∃ inner, j.node inner ∈ es ∧ x ∈ inner}

theorem flat_of_simplified (h : ∀ e ∈ es, Simplified e) :
  j.Flat es
  := by
  intro inner hinner
  apply ((simplified_node_iff j).1 (h _ hinner)).2.2.2

/-- The operands are the members of the flattened list without the neutral condition. -/
theorem mem_operands_iff (h : j.Flat es) {x : Expr} :
  x ∈ j.operands es ↔ x ∈ j.flatten es \ {j.neutral}
  := by
  rw [mem_operands, flatten, Set.mem_sdiff, Set.mem_union, Set.mem_ofPred_eq, Set.mem_ofPred_eq,
    Set.mem_singleton_iff]
  constructor
  · rintro (⟨hx, hneutral, hnode⟩ | ⟨inner, hinner, hx⟩)
    · use Or.inl ⟨hx, hnode⟩
    · use Or.inr ⟨inner, hinner, hx⟩
      apply (j.isOperand_iff.1 (h inner hinner x hx)).1
  · rintro ⟨⟨hx, hnode⟩ | hinner, hneutral⟩
    · exact Or.inl ⟨hx, hneutral, hnode⟩
    · exact Or.inr hinner

/-- The absorbing condition is an operand only where it is a member. -/
theorem absorbing_mem_operands_iff (h : j.Flat es) :
  j.absorbing ∈ j.operands es ↔ j.absorbing ∈ es
  := by
  rw [mem_operands]
  constructor
  · rintro (⟨hmem, -⟩ | ⟨inner, hinner, hmem⟩)
    · apply hmem
    · apply absurd rfl (j.isOperand_iff.1 (h inner hinner _ hmem)).2.1
  · intro hmem
    exact Or.inl ⟨hmem, j.absorbing_ne_neutral, j.absorbing_ne_node⟩

/-- The simplified expression depends on the flattened operands only. -/
theorem all_congr_flatten (hes : j.Flat es) (hfs : j.Flat fs)
    (h : j.flatten es \ {j.neutral} = j.flatten fs \ {j.neutral}) :
  j.all es = j.all fs
  := by
  have hoperands : ∀ x, x ∈ j.operands es ↔ x ∈ j.operands fs := by
    intro x
    rw [j.mem_operands_iff hes, j.mem_operands_iff hfs, h]
  apply j.all_congr _ hoperands
  rw [← j.absorbing_mem_operands_iff hes, ← j.absorbing_mem_operands_iff hfs, hoperands]

/-- A simplified expression is the one with a single operand. -/
theorem all_singleton (h : Simplified e) :
  j.all [e] = e
  := by
  rw [all_eq]
  obtain rfl | rfl | ⟨inner, rfl⟩ | hform := j.eq_or_isOperand e
  · rw [if_neg (by simp [j.absorbing_ne_neutral]), operands_cons_neutral, operands_nil]
    rfl
  · rw [if_pos (by simp)]
  · obtain ⟨-, hlength, hincreasing, -⟩ := (simplified_node_iff j).1 h
    rw [if_neg (by simp [j.absorbing_ne_node]), operands_cons_node, operands_nil, List.append_nil,
      canonical_of_increasing hincreasing, collapse_of_two_le j hlength]
  · have hne := (j.isOperand_iff.1 hform).2.1
    rw [if_neg (by simp [hne.symm]), operands_of_isOperand j (by simpa using hform)]
    rfl

/-- The operands of what they were joined to are the operands. -/
theorem operands_collapse (h : ∀ e ∈ es, j.isOperand e = true) :
  j.operands [j.collapse es] = es
  := by
  obtain _ | ⟨a, _ | ⟨b, es⟩⟩ := es
  · rw [collapse, operands_cons_neutral, operands_nil]
  · rw [collapse, j.operands_of_isOperand h]
  · rw [collapse_of_two_le j (by simp), operands_cons_node, operands_nil, List.append_nil]

theorem collapse_ne_absorbing (h : ∀ e ∈ es, j.isOperand e = true) :
  j.collapse es ≠ j.absorbing
  := by
  obtain _ | ⟨a, _ | ⟨b, es⟩⟩ := es
  · apply j.absorbing_ne_neutral.symm
  · apply (j.isOperand_iff.1 (h a (List.mem_singleton_self a))).2.1
  · rw [collapse_of_two_le j (by simp)]
    apply (j.absorbing_ne_node _).symm

/-- Simplified operands decide only if one of them does. -/
theorem absorbing_mem_of_all (h : j.Flat es) (hall : j.all es = j.absorbing) :
  j.absorbing ∈ es
  := by
  by_contra hmem
  rw [all_eq, if_neg hmem] at hall
  apply j.collapse_ne_absorbing _ hall
  intro e he
  apply j.isOperand_of_mem h hmem (mem_canonical.1 he)

/-- What was joined can be joined with more operands. -/
theorem all_cons_all (h : j.Flat es) :
  j.all (j.all es :: fs) = j.all (es ++ fs)
  := by
  rw [j.all_eq es]
  split
  · rename_i hmem
    rw [all_eq, all_eq, if_pos (by simp), if_pos (by simp [hmem])]
  · rename_i hmem
    have hoperands : ∀ e ∈ canonical (j.operands es), j.isOperand e = true := by
      intro e he
      apply j.isOperand_of_mem h hmem (mem_canonical.1 he)
    have hne := (j.collapse_ne_absorbing hoperands).symm
    apply j.all_congr
    · simp [hne, hmem]
    · intro x
      rw [← List.singleton_append, mem_operands_append, mem_operands_append,
        operands_collapse j hoperands, mem_canonical]

end Junction

/-! ### The laws -/

/-- The constructors and the renaming keep expressions simplified.  Joined expressions are equal if
their flattened operands are, up to neutral ones; so joining is idempotent, commutative and
associative. -/
theorem simplified_laws :
  ((∀ es, (∀ e ∈ es, Simplified e)
      → Simplified (andAll es) ∧ Simplified (orAll es) ∧ Simplified (concatOf es))
    ∧ (∀ e, Simplified e
      → Simplified (notOf e) ∧ Simplified (.isNotNull e) ∧ ∀ f, Simplified (rename f e))
    ∧ ∀ a b, Simplified a → Simplified b → Simplified (equalOf a b))
    ∧ ∀ j : Junction,
      (∀ es fs, (∀ e ∈ es, Simplified e) → (∀ e ∈ fs, Simplified e)
        → j.flatten es \ {j.neutral} = j.flatten fs \ {j.neutral} → j.all es = j.all fs)
      ∧ ∀ a b c, Simplified a → Simplified b → Simplified c
        → j.all [a, a] = a ∧ j.all [a, b] = j.all [b, a]
          ∧ j.all [j.all [a, b], c] = j.all [a, j.all [b, c]]
  := by
  refine ⟨⟨?_, ?_, ?_⟩, ?_⟩
  · intro es hes
    use simplified_all .and hes, simplified_all .or hes, simplified_concatOf hes
  · intro e he
    use simplified_notOf he, .isNotNull he
    intro f
    apply simplified_rename f he
  · intro a b ha hb
    apply simplified_equalOf ha hb
  · intro j
    constructor
    · intro es fs hes hfs heq
      apply j.all_congr_flatten (j.flat_of_simplified hes) (j.flat_of_simplified hfs) heq
    · intro a b c ha hb hc
      have hab : j.Flat [a, b] := j.flat_of_simplified (by simp [ha, hb])
      have hbc : j.Flat [b, c] := j.flat_of_simplified (by simp [hb, hc])
      refine ⟨?_, ?_, ?_⟩
      · calc j.all [a, a]
          _ = j.all [a] := j.all_congr_mem (by simp)
          _ = a := j.all_singleton ha
      · apply j.all_congr_mem
        grind
      · calc j.all [j.all [a, b], c]
          _ = j.all ([a, b] ++ [c]) := j.all_cons_all hab
          _ = j.all ([b, c] ++ [a]) := j.all_congr_mem (by grind)
          _ = j.all [j.all [b, c], a] := (j.all_cons_all hbc).symm
          _ = j.all [a, j.all [b, c]] := j.all_congr_mem (by grind)

/-- Two columns that are compared become one, and operands are nested in another way. -/
theorem simplified_laws_named :
  Simplified (rename (fun c => ⟨c.table, "name"⟩)
      (.equal (.column ⟨⟨none, "p"⟩, "family"⟩) (.column ⟨⟨none, "p"⟩, "name"⟩)))
    ∧ andAll [.and [.isNotNull (.constant "a"), .isNotNull (.constant "b")], .always]
      = andAll [.isNotNull (.constant "b"), .isNotNull (.constant "a")]
  := by
  obtain ⟨⟨-, hlaws, -⟩, hjunction⟩ := simplified_laws
  have hconstant : ∀ s, Simplified (.isNotNull (.constant s)) := fun s => .isNotNull (.constant s)
  constructor
  · apply (hlaws _ _).2.2
    apply Simplified.equal (.column _) (.column _) (by decide) rfl
  · apply (hjunction .and).1
    · rw [List.forall_mem_cons, List.forall_mem_singleton]
      use .and (by simp [hconstant]) (by simp) (by unfold Increasing; decide)
        (by simp [isConjunct, form])
      apply Simplified.always
    · simp [hconstant]
    · ext x
      cases x <;> simp [Junction.flatten, Junction.node, Junction.neutral, or_comm]

end RelGraph.Sql.Expr
