import Mathlib.Data.List.Basic
import RelGraph.Proofs.Sparql.Clauses

/-!
# Clauses are split no further

The conjuncts into which a condition is split are in a normal form: negations are pushed inward, and a
disjunction is either one of atoms, or it has so many clauses that it is not distributed.  Operands of
the latter can end up in other clauses, which then have too many clauses as well.  Splitting a
condition in normal form gives as many conjuncts as it has already, so that a conjunct is kept.
-/

namespace RelGraph.Sparql.Expression

variable {e c : Expression} {es : List Expression}

/-! ### Operands -/

mutual

/-- The conjunctions and disjunctions have operands, those in operands and under negations
included.  Other expressions are not looked into. -/
def isFilled : Expression → Bool
  | .and es => !es.isEmpty && areFilled es
  | .or es => !es.isEmpty && areFilled es
  | .not e => isFilled e
  | _ => true

/-- The conjunctions and disjunctions in some expressions have operands. -/
def areFilled : List Expression → Bool
  | [] => true
  | e :: es => isFilled e && areFilled es

end

theorem areFilled_eq_all (es : List Expression) :
  areFilled es = es.all isFilled
  := by
  induction es with
  | nil => rfl
  | cons e es ih => rw [areFilled, ih, List.all_cons]

theorem isFilled_and :
  (and es).isFilled = true ↔ es ≠ [] ∧ ∀ e ∈ es, e.isFilled = true
  := by
  simp [isFilled, areFilled_eq_all]

theorem isFilled_or :
  (or es).isFilled = true ↔ es ≠ [] ∧ ∀ e ∈ es, e.isFilled = true
  := by
  simp [isFilled, areFilled_eq_all]

theorem isFilled_pushedNegation (h : e.isFilled = true) :
  (pushedNegation e).isFilled = true
  := by
  induction e with
  | not e => apply h
  | or es ih =>
    obtain ⟨hne, hes⟩ := isFilled_or.1 h
    rw [pushedNegation, pushedNegations_eq_map, isFilled_and, List.forall_mem_map]
    use mt List.map_eq_nil_iff.1 hne
    exact fun e he => ih e he (hes e he)
  | _ => apply h

theorem isFilled_pushNegations (h : e.isFilled = true) :
  (pushNegations e).isFilled = true
  := by
  induction e with
  | not e ih =>
    rw [pushNegations]
    apply isFilled_pushedNegation (ih h)
  | and es ih =>
    obtain ⟨hne, hes⟩ := isFilled_and.1 h
    rw [pushNegations, pushAllNegations_eq_map, isFilled_and, List.forall_mem_map]
    use mt List.map_eq_nil_iff.1 hne
    exact fun e he => ih e he (hes e he)
  | or es ih =>
    obtain ⟨hne, hes⟩ := isFilled_or.1 h
    rw [pushNegations, pushAllNegations_eq_map, isFilled_or, List.forall_mem_map]
    use mt List.map_eq_nil_iff.1 hne
    exact fun e he => ih e he (hes e he)
  | _ => apply h

/-! ### Negations -/

/-- The expression is neither a conjunction nor a disjunction. -/
def isAtom : Expression → Bool
  | .and _ | .or _ => false
  | _ => true

/-- The expression is an atom without a negation. -/
def isPositive : Expression → Bool
  | .and _ | .or _ | .not _ => false
  | _ => true

/-- Negations stand in front of atoms and conjunctions only. -/
inductive Pushed : Expression → Prop
  | positive {e : Expression} (h : e.isPositive = true) : Pushed e
  | negative {e : Expression} (h : e.isPositive = true) : Pushed (.not e)
  | negated {es : List Expression} (h : ∀ e ∈ es, Pushed e) : Pushed (.not (.and es))
  | and {es : List Expression} (h : ∀ e ∈ es, Pushed e) : Pushed (.and es)
  | or {es : List Expression} (h : ∀ e ∈ es, Pushed e) : Pushed (.or es)

theorem pushNegations_of_isPositive (h : e.isPositive = true) :
  pushNegations e = e ∧ pushedNegation e = .not e
  := by
  cases e <;> simp_all [isPositive, pushNegations, pushedNegation]

theorem Pushed.pushedNegation (h : Pushed e) :
  Pushed (pushedNegation e)
  := by
  induction h with
  | positive h =>
    rw [(pushNegations_of_isPositive h).2]
    apply Pushed.negative h
  | negative h => apply Pushed.positive h
  | negated h => apply Pushed.and h
  | and h => apply Pushed.negated h
  | or h ih =>
    rw [Expression.pushedNegation, pushedNegations_eq_map]
    apply Pushed.and
    rw [List.forall_mem_map]
    exact ih

theorem pushed_pushNegations (e : Expression) :
  Pushed (pushNegations e)
  := by
  induction e with
  | not e ih =>
    rw [pushNegations]
    apply ih.pushedNegation
  | and es ih =>
    rw [pushNegations, pushAllNegations_eq_map]
    apply Pushed.and
    rw [List.forall_mem_map]
    exact ih
  | or es ih =>
    rw [pushNegations, pushAllNegations_eq_map]
    apply Pushed.or
    rw [List.forall_mem_map]
    exact ih
  | _ => apply Pushed.positive rfl

/-- Negations that are pushed inward stay where they are. -/
theorem Pushed.pushNegations (h : Pushed e) :
  pushNegations e = e
  := by
  induction h with
  | positive h => apply (pushNegations_of_isPositive h).1
  | negative h =>
    obtain ⟨hpush, hnegate⟩ := pushNegations_of_isPositive h
    rw [Expression.pushNegations, hpush, hnegate]
  | negated h ih =>
    rw [Expression.pushNegations, Expression.pushNegations, pushAllNegations_eq_map,
      List.map_congr_left ih, List.map_id']
    rfl
  | and h ih =>
    rw [Expression.pushNegations, pushAllNegations_eq_map, List.map_congr_left ih, List.map_id']
  | or h ih =>
    rw [Expression.pushNegations, pushAllNegations_eq_map, List.map_congr_left ih, List.map_id']

theorem Pushed.of_mem (h : Pushed (.and es) ∨ Pushed (.or es)) (he : e ∈ es) :
  Pushed e
  := by
  obtain h | h := h
  · cases h with
    | positive h => cases h
    | and h => apply h e he
  · cases h with
    | positive h => cases h
    | or h => apply h e he

/-! ### Flattening -/

theorem flatten_of_isAtom (h : e.isAtom = true) :
  flattenAnd e = [e] ∧ flattenOr e = [e] ∧ distribute e = e
  := by
  cases e <;> simp_all [isAtom, flattenAnd, flattenOr, distribute]

theorem flattenAnd_of_ne (h : ∀ es, e ≠ .and es) :
  flattenAnd e = [e]
  := by
  cases e <;> simp_all [flattenAnd]

/-- The operands of nested conjunctions are no conjunctions. -/
theorem ne_of_mem_flattenAnd (h : c ∈ flattenAnd e) (es : List Expression) :
  c ≠ .and es
  := by
  induction e with
  | and es ih =>
    rw [flattenAnd, flattenAnds_eq_flatMap, List.mem_flatMap] at h
    obtain ⟨e, he, hc⟩ := h
    apply ih e he hc
  | _ =>
    simp only [flattenAnd, List.mem_singleton] at h
    rw [h]
    simp

theorem flattenAnds_flattenAnd (e : Expression) :
  flattenAnds (flattenAnd e) = flattenAnd e
  := by
  rw [flattenAnds_eq_flatMap]
  conv_rhs => rw [← List.flatMap_singleton' (flattenAnd e)]
  apply List.flatMap_congr
  intro c hc
  apply flattenAnd_of_ne (ne_of_mem_flattenAnd hc)

/-- The conjuncts of a conjunction are those of its operands. -/
theorem flattenAnd_distribute_and (es : List Expression) :
  flattenAnd (distribute (.and es)) = es.flatMap fun e => flattenAnd (distribute e)
  := by
  rw [distribute, flattenAnd, distributedConjuncts_eq_flatMap, flattenAnds_eq_flatMap,
    List.flatMap_assoc]
  apply List.flatMap_congr
  intro e _
  rw [← flattenAnds_eq_flatMap, flattenAnds_flattenAnd]

/-! ### Clauses -/

/-- The number of ways of choosing a conjunct of each operand. -/
def choices : List Expression → Nat
  | [] => 1
  | e :: es => (flattenAnd e).length * choices es

theorem choices_append (es fs : List Expression) :
  choices (es ++ fs) = choices es * choices fs
  := by
  induction es with
  | nil => rw [List.nil_append, choices, Nat.one_mul]
  | cons e es ih => rw [List.cons_append, choices, ih, choices, Nat.mul_assoc]

theorem choices_pos (h : ∀ e ∈ es, flattenAnd e ≠ []) :
  0 < choices es
  := by
  induction es with
  | nil => apply Nat.one_pos
  | cons e es ih =>
    rw [List.forall_mem_cons] at h
    apply Nat.mul_pos (List.length_pos_iff.2 h.1) (ih h.2)

theorem choices_map {f : Expression → Expression}
    (h : ∀ e ∈ es, (flattenAnd (f e)).length = (flattenAnd e).length) :
  choices (es.map f) = choices es
  := by
  induction es with
  | nil => rfl
  | cons e es ih =>
    rw [List.forall_mem_cons] at h
    rw [List.map_cons, choices, choices, h.1, ih h.2]

theorem length_flatMap_options (acc : List (List Expression)) (options : List Expression) :
  (acc.flatMap fun c => options.map fun o => c ++ flattenOr o).length
    = acc.length * options.length
  := by
  induction acc with
  | nil => simp
  | cons c acc ih =>
    rw [List.flatMap_cons, List.length_append, ih, List.length_map, List.length_cons,
      Nat.succ_mul, Nat.add_comm]

/-- The clauses are given up exactly when there are more choices than the bound. -/
theorem clauses?_eq_none_iff {acc : List (List Expression)} (hes : ∀ e ∈ es, flattenAnd e ≠ [])
    (hacc : acc.length ≤ maxClauses) :
  clauses? es acc = none ↔ maxClauses < acc.length * choices es
  := by
  induction es generalizing acc with
  | nil => simp [clauses?, choices, hacc]
  | cons e es ih =>
    rw [List.forall_mem_cons] at hes
    rw [clauses?, choices, ← Nat.mul_assoc]
    split
    · rename_i h
      rw [eq_self, true_iff]
      apply Nat.lt_of_lt_of_le h (Nat.le_mul_of_pos_right _ (choices_pos hes.2))
    · rename_i h
      rw [ih hes.2, length_flatMap_options]
      rw [length_flatMap_options]
      apply Nat.le_of_not_lt h

/-- A disjunction is not distributed exactly when there are more choices than the bound. -/
theorem clauses?_nil_eq_none_iff (hes : ∀ e ∈ es, flattenAnd e ≠ []) :
  clauses? es [[]] = none ↔ maxClauses < choices es
  := by
  rw [clauses?_eq_none_iff hes (by decide), List.length_singleton, Nat.one_mul]

theorem length_of_clauses? {acc cs : List (List Expression)} (h : clauses? es acc = some cs) :
  cs.length = acc.length * choices es
  := by
  induction es generalizing acc with
  | nil =>
    cases h
    rw [choices, Nat.mul_one]
  | cons e es ih =>
    rw [clauses?] at h
    split at h
    · cases h
    · rw [ih h, length_flatMap_options, choices, Nat.mul_assoc]

/-- Each clause is made of conjuncts of the operands. -/
theorem exists_of_mem_clauses? {acc cs : List (List Expression)} (h : clauses? es acc = some cs)
    {c : List Expression} (hc : c ∈ cs) :
  ∃ a ∈ acc, ∃ os, (∀ o ∈ os, ∃ e ∈ es, o ∈ flattenAnd e) ∧ c = a ++ flattenOrs os
  := by
  induction es generalizing acc with
  | nil =>
    cases h
    exact ⟨c, hc, [], by simp, (List.append_nil c).symm⟩
  | cons e es ih =>
    rw [clauses?] at h
    split at h
    · cases h
    · obtain ⟨a, ha, os, hos, rfl⟩ := ih h
      obtain ⟨b, hb, ha⟩ := List.mem_flatMap.1 ha
      obtain ⟨o, ho, rfl⟩ := List.mem_map.1 ha
      refine ⟨b, hb, o :: os, ?_, ?_⟩
      · rw [List.forall_mem_cons]
        use ⟨e, List.mem_cons_self, ho⟩
        intro o ho
        obtain ⟨e', he', ho⟩ := hos o ho
        exact ⟨e', List.mem_cons_of_mem e he', ho⟩
      · rw [flattenOrs, List.append_assoc]

/-- Atoms have a single clause. -/
theorem clauses?_of_isAtom (hes : ∀ e ∈ es, e.isAtom = true) {acc : List (List Expression)}
    (hacc : acc.length ≤ maxClauses) :
  clauses? es acc = some (acc.map fun c => c ++ es)
  := by
  induction es generalizing acc with
  | nil => simp [clauses?]
  | cons e es ih =>
    rw [List.forall_mem_cons] at hes
    obtain ⟨hand, hor, -⟩ := flatten_of_isAtom hes.1
    have hchosen : (acc.flatMap fun c => [e].map fun o => c ++ flattenOr o)
        = acc.map fun c => c ++ [e] := by
      simp only [List.map_cons, List.map_nil, hor]
      apply List.flatMap_pure_eq_map
    rw [clauses?, hand, List.length_singleton, Nat.mul_one, if_neg (Nat.not_lt.2 hacc), hchosen,
      ih hes.2]
    · simp
    · simpa using hacc

/-! ### The normal form -/

/-- A disjunction of the operands is not distributed: there is nothing to distribute, or too
much. -/
def IsClause (es : List Expression) : Prop :=
  (∀ e ∈ es, e.isAtom = true) ∨ maxClauses < choices es

/-- What distribution gives: no disjunction can be distributed, negations are pushed inward, and
conjunctions have operands. -/
inductive Distributed : Expression → Prop
  | atom {e : Expression} (h : e.isAtom = true) (hp : Pushed e) : Distributed e
  | and {es : List Expression} (hne : es ≠ []) (h : ∀ e ∈ es, Distributed e) :
    Distributed (.and es)
  | or {es : List Expression} (h : ∀ e ∈ es, Distributed e) (hes : IsClause es) :
    Distributed (.or es)

theorem Distributed.pushed (h : Distributed e) :
  Pushed e
  := by
  induction h with
  | atom h hp => apply hp
  | and hne h ih => apply Pushed.and ih
  | or h hes ih => apply Pushed.or ih

theorem Distributed.flattenAnd_ne_nil (h : Distributed e) :
  flattenAnd e ≠ []
  := by
  induction h with
  | atom h hp =>
    rw [(flatten_of_isAtom h).1]
    simp
  | and hne h ih =>
    obtain ⟨e, he⟩ := List.exists_mem_of_ne_nil _ hne
    rw [flattenAnd, flattenAnds_eq_flatMap, ne_eq, List.flatMap_eq_nil_iff]
    exact fun hnil => ih e he (hnil e he)
  | or h hes => simp [flattenAnd]

theorem Distributed.of_mem_flattenAnd (h : Distributed e) (hc : c ∈ flattenAnd e) :
  Distributed c
  := by
  induction h with
  | atom h hp =>
    rw [(flatten_of_isAtom h).1, List.mem_singleton] at hc
    rw [hc]
    apply Distributed.atom h hp
  | and hne h ih =>
    rw [flattenAnd, flattenAnds_eq_flatMap, List.mem_flatMap] at hc
    obtain ⟨e, he, hc⟩ := hc
    apply ih e he hc
  | or h hes =>
    rw [flattenAnd, List.mem_singleton] at hc
    · rw [hc]
      apply Distributed.or h hes
    · simp

theorem Distributed.of_mem_flattenOr (h : Distributed e) (hc : c ∈ flattenOr e) :
  Distributed c
  := by
  induction h with
  | atom h hp =>
    rw [(flatten_of_isAtom h).2.1, List.mem_singleton] at hc
    rw [hc]
    apply Distributed.atom h hp
  | and hne h =>
    rw [flattenOr, List.mem_singleton] at hc
    · rw [hc]
      apply Distributed.and hne h
    · simp
  | or h hes ih =>
    rw [flattenOr, flattenOrs_eq_flatMap, List.mem_flatMap] at hc
    obtain ⟨e, he, hc⟩ := hc
    apply ih e he hc

theorem distributed_of_mem_flattenOrs (h : ∀ e ∈ es, Distributed e) (hc : c ∈ flattenOrs es) :
  Distributed c
  := by
  rw [flattenOrs_eq_flatMap, List.mem_flatMap] at hc
  obtain ⟨e, he, hc⟩ := hc
  apply (h e he).of_mem_flattenOr hc

theorem choices_pos_of_distributed (h : ∀ e ∈ es, Distributed e) :
  0 < choices es
  := choices_pos fun e he => (h e he).flattenAnd_ne_nil

/-- Flattening disjunctions loses no choices. -/
theorem choices_le_flattenOrs (h : ∀ e ∈ es, Distributed e) :
  choices es ≤ choices (flattenOrs es)
  := by
  have hone {e : Expression} (he : Distributed e) :
      (flattenAnd e).length ≤ choices (flattenOr e) := by
    cases he with
    | atom h hp =>
      rw [(flatten_of_isAtom h).2.1]
      simp [choices]
    | and hne h => simp [flattenOr, choices]
    | or h hes =>
      have hpos := choices_pos_of_distributed fun c hc => distributed_of_mem_flattenOrs h hc
      simp only [flattenAnd, flattenOr, List.length_singleton]
      apply hpos
  induction es with
  | nil => apply Nat.le_refl
  | cons e es ih =>
    rw [List.forall_mem_cons] at h
    rw [choices, flattenOrs, choices_append]
    apply Nat.mul_le_mul (hone h.1) (ih h.2)

/-- The disjuncts of a conjunct are those of a clause. -/
theorem Distributed.isClause_flattenOr (h : Distributed e) (hne : ∀ es, e ≠ .and es) :
  IsClause (flattenOr e)
  := by
  cases h with
  | atom h hp =>
    rw [(flatten_of_isAtom h).2.1]
    left
    simpa using h
  | and _ h => exact absurd rfl (hne _)
  | or h hes =>
    rw [flattenOr]
    obtain hatoms | hbound := hes
    · left
      intro c hc
      rw [flattenOrs_eq_flatMap, List.mem_flatMap] at hc
      obtain ⟨e, he, hc⟩ := hc
      rw [(flatten_of_isAtom (hatoms e he)).2.1, List.mem_singleton] at hc
      rw [hc]
      apply hatoms e he
    · right
      apply Nat.lt_of_lt_of_le hbound (choices_le_flattenOrs h)

/-- A clause that is part of another one keeps it from being distributed. -/
theorem IsClause.append {es fs : List Expression} (hes : IsClause es) (hfs : IsClause fs)
    (hpos : 0 < choices es) (hpos' : 0 < choices fs) :
  IsClause (es ++ fs)
  := by
  rw [IsClause, choices_append]
  obtain hes | hes := hes
  · obtain hfs | hfs := hfs
    · left
      rw [List.forall_mem_append]
      exact ⟨hes, hfs⟩
    · right
      apply Nat.lt_of_lt_of_le hfs (Nat.le_mul_of_pos_left _ hpos)
  · right
    apply Nat.lt_of_lt_of_le hes (Nat.le_mul_of_pos_right _ hpos')

theorem isClause_flattenOrs {os : List Expression} (h : ∀ o ∈ os, Distributed o)
    (hne : ∀ o ∈ os, ∀ es, o ≠ .and es) :
  IsClause (flattenOrs os)
  := by
  induction os with
  | nil => exact .inl (by simp [flattenOrs])
  | cons o os ih =>
    rw [List.forall_mem_cons] at h hne
    rw [flattenOrs]
    apply IsClause.append (h.1.isClause_flattenOr hne.1) (ih h.2 hne.2)
    · apply choices_pos_of_distributed fun c hc => h.1.of_mem_flattenOr hc
    · apply choices_pos_of_distributed fun c hc => distributed_of_mem_flattenOrs h.2 hc

theorem distributed_clause (h : ∀ e ∈ es, Distributed e) (hes : IsClause es) :
  Distributed (clause es)
  := by
  unfold clause
  split
  · apply h
    apply List.mem_singleton_self
  · apply Distributed.or h hes

/-- Distribution gives the normal form. -/
theorem distributed_distribute (hfilled : e.isFilled = true) (hp : Pushed e) :
  Distributed (distribute e)
  := by
  induction e with
  | and es ih =>
    obtain ⟨hne, hes⟩ := isFilled_and.1 hfilled
    have hoperands (e : Expression) (he : e ∈ es) : Distributed (distribute e) :=
      ih e he (hes e he) (.of_mem (.inl hp) he)
    rw [distribute, distributedConjuncts_eq_flatMap]
    apply Distributed.and
    · obtain ⟨e, he⟩ := List.exists_mem_of_ne_nil es hne
      rw [ne_eq, List.flatMap_eq_nil_iff]
      exact fun hnil => (hoperands e he).flattenAnd_ne_nil (hnil e he)
    · intro c hc
      obtain ⟨e, he, hc⟩ := List.mem_flatMap.1 hc
      apply (hoperands e he).of_mem_flattenAnd hc
  | or es ih =>
    have hoperands : ∀ e ∈ es.map distribute, Distributed e := by
      rw [List.forall_mem_map]
      intro e he
      apply ih e he ((isFilled_or.1 hfilled).2 e he) (.of_mem (.inr hp) he)
    rw [distribute, distributeAll_eq_map]
    split
    · rename_i cs h
      apply Distributed.and
      · have hlength := length_of_clauses? h
        rw [List.length_singleton, Nat.one_mul] at hlength
        rw [ne_eq, List.map_eq_nil_iff, ← List.length_eq_zero_iff, hlength]
        apply Nat.ne_of_gt (choices_pos_of_distributed hoperands)
      · rw [List.forall_mem_map]
        intro c hc
        obtain ⟨a, ha, os, hos, rfl⟩ := exists_of_mem_clauses? h hc
        rw [List.mem_singleton.1 ha, List.nil_append]
        have hdistributed (o : Expression) (ho : o ∈ os) : Distributed o := by
          obtain ⟨e, he, ho⟩ := hos o ho
          apply (hoperands e he).of_mem_flattenAnd ho
        apply distributed_clause fun c hc => distributed_of_mem_flattenOrs hdistributed hc
        apply isClause_flattenOrs hdistributed
        intro o ho
        obtain ⟨e, he, ho⟩ := hos o ho
        apply ne_of_mem_flattenAnd ho
    · rename_i h
      apply Distributed.or hoperands
      right
      apply (clauses?_nil_eq_none_iff fun e he => (hoperands e he).flattenAnd_ne_nil).1 h
  | _ =>
    rw [distribute]
    · apply Distributed.atom rfl hp
    · simp
    · simp

/-- Distribution does not change the number of conjuncts of an expression in normal form. -/
theorem Distributed.length_flattenAnd_distribute (h : Distributed e) :
  (flattenAnd (distribute e)).length = (flattenAnd e).length
  := by
  induction h with
  | atom h hp => rw [(flatten_of_isAtom h).2.2]
  | and hne h ih =>
    rw [flattenAnd_distribute_and, flattenAnd, flattenAnds_eq_flatMap, List.length_flatMap,
      List.length_flatMap, List.map_congr_left ih]
  | @or es h hes ih =>
    rw [distribute, distributeAll_eq_map]
    obtain hatoms | hbound := hes
    · have hsame : es.map distribute = es :=
        (List.map_congr_left fun e he => (flatten_of_isAtom (hatoms e he)).2.2).trans
          (List.map_id' es)
      rw [hsame, clauses?_of_isAtom hatoms (by decide)]
      have hclause : ∀ fs, clause es ≠ .and fs := by
        intro fs
        unfold clause
        split
        · rintro rfl
          cases hatoms _ (List.mem_singleton_self _)
        · simp
      simp [flattenAnd, flattenAnds, flattenAnd_of_ne hclause]
    · rw [← choices_map ih] at hbound
      have hoperands : ∀ e ∈ es.map distribute, flattenAnd e ≠ [] := by
        rw [List.forall_mem_map]
        intro e he
        rw [← List.length_pos_iff, ih e he, List.length_pos_iff]
        apply (h e he).flattenAnd_ne_nil
      rw [(clauses?_nil_eq_none_iff hoperands).2 hbound]
      simp [flattenAnd]

/-! ### Splitting -/

/-- The conjuncts after pushing negations inward and distributing. -/
def normalConjuncts (e : Expression) : List Expression :=
  flattenAnd (distribute (pushNegations e))

theorem split_eq (e : Expression) :
  e.split = if e.conjunctList.length < (normalConjuncts e).length then normalConjuncts e
    else e.conjunctList
  := rfl

theorem normalConjuncts_and (es : List Expression) :
  normalConjuncts (.and es) = es.flatMap normalConjuncts
  := by
  rw [normalConjuncts, pushNegations, pushAllNegations_eq_map, flattenAnd_distribute_and,
    List.flatMap_map]
  rfl

theorem distributed_of_isFilled (h : e.isFilled = true) :
  Distributed (distribute (pushNegations e))
  := distributed_distribute (isFilled_pushNegations h) (pushed_pushNegations e)

/-- A conjunct in normal form has no other conjuncts. -/
theorem Distributed.length_normalConjuncts (h : Distributed c) (hne : ∀ es, c ≠ .and es) :
  (normalConjuncts c).length = 1
  := by
  rw [normalConjuncts, h.pushed.pushNegations, h.length_flattenAnd_distribute, flattenAnd_of_ne hne,
    List.length_singleton]

theorem conjunctList_of_ne (h : ∀ es, c ≠ .and es) :
  c.conjunctList = if c.truth? = some true then [] else [c]
  := by
  cases c <;> simp_all [conjunctList]

theorem ne_of_mem_conjunctList (h : c ∈ e.conjunctList) (es : List Expression) :
  c ≠ .and es
  := by
  induction e with
  | and es ih =>
    rw [conjunctList, conjunctLists_eq_flatMap, List.mem_flatMap] at h
    obtain ⟨e, he, hc⟩ := h
    apply ih e he hc
  | _ =>
    simp only [conjunctList] at h
    split_ifs at h
    · cases h
    · rw [List.mem_singleton.1 h]
      simp

/-- An expression without other conjuncts is kept, a constant truth as well. -/
theorem split_of_length (hne : ∀ es, c ≠ .and es) (h : (normalConjuncts c).length ≤ 1) :
  c.split = [c]
  := by
  rw [split_eq, conjunctList_of_ne hne]
  by_cases htruth : c.truth? = some true
  · cases c with
    | literal l =>
      rw [if_pos htruth]
      rfl
    | _ => cases htruth
  · rw [if_neg htruth, List.length_singleton, if_neg (Nat.not_lt.2 h)]

/-- Where each operand has at most as many members in one list as in another, and all have as many,
each has as many. -/
theorem length_flatMap_le {f g : Expression → List Expression}
    (h : ∀ e ∈ es, (f e).length ≤ (g e).length) :
  (es.flatMap f).length ≤ (es.flatMap g).length
    ∧ ((es.flatMap g).length ≤ (es.flatMap f).length → ∀ e ∈ es, (g e).length ≤ (f e).length)
  := by
  induction es with
  | nil => simp
  | cons e es ih =>
    rw [List.forall_mem_cons] at h
    obtain ⟨hle, hge⟩ := ih h.2
    simp only [List.flatMap_cons, List.length_append]
    use Nat.add_le_add h.1 hle
    intro hall
    rw [List.forall_mem_cons]
    exact ⟨by omega, hge (by omega)⟩

theorem length_conjunctList_le (h : e.isFilled = true) :
  e.conjunctList.length ≤ (normalConjuncts e).length
  := by
  induction e with
  | and es ih =>
    rw [conjunctList, conjunctLists_eq_flatMap, normalConjuncts_and]
    apply (length_flatMap_le fun e he => ih e he ((isFilled_and.1 h).2 e he)).1
  | _ =>
    have hpos := List.length_pos_iff.2 (distributed_of_isFilled h).flattenAnd_ne_nil
    simp only [conjunctList]
    split_ifs
    · apply Nat.zero_le
    · apply hpos

/-- If there are no more conjuncts in normal form than there are already, each of these is the only
one of its own. -/
theorem length_normalConjuncts_le_one (h : e.isFilled = true)
    (hle : (normalConjuncts e).length ≤ e.conjunctList.length) (hc : c ∈ e.conjunctList) :
  (normalConjuncts c).length ≤ 1
  := by
  induction e with
  | and es ih =>
    have hes := (isFilled_and.1 h).2
    rw [conjunctList, conjunctLists_eq_flatMap] at hle hc
    rw [normalConjuncts_and] at hle
    obtain ⟨e, he, hc⟩ := List.mem_flatMap.1 hc
    apply ih e he (hes e he) _ hc
    apply (length_flatMap_le fun e he => length_conjunctList_le (hes e he)).2 hle e he
  | _ =>
    simp only [conjunctList] at hle hc
    split_ifs at hle hc
    · cases hc
    · rw [List.mem_singleton.1 hc]
      apply hle

/-- What a condition is split into is split no further. -/
theorem split_of_mem_split {e : Expression} (h : e.isFilled = true) {c : Expression}
    (hc : c ∈ e.split) :
  c.split = [c]
  := by
  rw [split_eq] at hc
  split_ifs at hc with hlength
  · have hne := ne_of_mem_flattenAnd hc
    have hdistributed := (distributed_of_isFilled h).of_mem_flattenAnd hc
    apply split_of_length hne (Nat.le_of_eq (hdistributed.length_normalConjuncts hne))
  · apply split_of_length (ne_of_mem_conjunctList hc)
    apply length_normalConjuncts_le_one h (Nat.le_of_not_lt hlength) hc

/-- A disjunction of conjunctions of eight and of nine conditions, which has too many clauses. -/
def crowd : Expression :=
  .or [.and (List.replicate 8 (.bound ⟨"x"⟩)), .and (List.replicate 9 (.bound ⟨"y"⟩))]

/-- The disjunction of this one and a conjunction. -/
def crowdedCondition : Expression :=
  .or [crowd, .and [.bound ⟨"p"⟩, .not (.not (.bound ⟨"q"⟩))]]

/-- A clause of both, in which the conjunctions of the first one are kept. -/
def crowdedClause (v : Rdf.Variable) : Expression :=
  .or [.and (List.replicate 8 (.bound ⟨"x"⟩)), .and (List.replicate 9 (.bound ⟨"y"⟩)), .bound v]

theorem split_of_mem_split_crowdedCondition :
  crowdedCondition.isFilled = true
    ∧ crowdedCondition.split = [crowdedClause ⟨"p"⟩, crowdedClause ⟨"q"⟩]
    ∧ (crowdedClause ⟨"p"⟩).split = [crowdedClause ⟨"p"⟩]
    ∧ (crowdedClause ⟨"q"⟩).split = [crowdedClause ⟨"q"⟩]
  := by
  have hfilled : crowdedCondition.isFilled = true := rfl
  have hsplit : crowdedCondition.split = [crowdedClause ⟨"p"⟩, crowdedClause ⟨"q"⟩] := rfl
  use hfilled, hsplit
  constructor
  · apply split_of_mem_split hfilled
    simp [hsplit]
  · apply split_of_mem_split hfilled
    simp [hsplit]

end RelGraph.Sparql.Expression
