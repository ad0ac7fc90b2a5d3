import RelGraph.Proofs.Sql.Junction

/-!
# Building conditions

The simplifying constructors give conditions with the truth values of the logic of three values,
which read no more columns than their operands.  What is not simplified away mentions all of
these columns.
-/

namespace RelGraph.Sql

open Sparql

namespace Expr

variable {es : List Expr} {cs : List Column} {row : Row} {c : Column} {a b : Expr}

/-! ### Truth values -/

@[simp]
theorem truthOn_ofBool (row : Row) (b : Bool) :
  truthOn row (ofBool b) = some b
  := by
  cases b <;> rfl

theorem allTrue_map_canonical (x : Expr → Option Bool) (es : List Expr) :
  allTrue ((canonical es).map x) = allTrue (es.map x)
  := Junction.truth_map_canonical .and x es

theorem anyTrue_map_canonical (x : Expr → Option Bool) (es : List Expr) :
  anyTrue ((canonical es).map x) = anyTrue (es.map x)
  := Junction.truth_map_canonical .or x es

/-- A conjunction has the truth value of its operands. -/
theorem truthOn_andAll (row : Row) (es : List Expr) :
  truthOn row (andAll es) = allTrue (es.map (truthOn row))
  := Junction.truthOn_all .and row es

theorem truthOn_orAll (row : Row) (es : List Expr) :
  truthOn row (orAll es) = anyTrue (es.map (truthOn row))
  := Junction.truthOn_all .or row es

theorem truthOn_notOf (row : Row) (e : Expr) :
  truthOn row (notOf e) = (truthOn row e).map Bool.not
  := by
  unfold notOf
  split
  · rfl
  · rfl
  · rename_i e
    rw [truthOn_not]
    rcases truthOn row e with _ | _ | _ <;> rfl
  · rfl

theorem sameIfKnown_comm {α : Type} [DecidableEq α] (s t : Option α) :
  sameIfKnown s t = sameIfKnown t s
  := by
  cases s <;> cases t <;> simp [sameIfKnown, eq_comm]

theorem equal?_comm (v w : Value) :
  v.equal? w = w.equal? v
  := by
  cases v <;> cases w <;> first | apply sameIfKnown_comm | rfl

/-- Two different expressions are compared; of two constants the comparison is decided. -/
theorem truthOn_equalOf_of_ne (row : Row) (hne : a ≠ b) :
  truthOn row (equalOf a b) = (a.valueOn row).equal? (b.valueOn row)
  := by
  unfold equalOf
  split
  · apply truthOn_ofBool
  · rw [if_neg hne]
    split
    · apply truthOn_equal
    · rw [truthOn_equal, equal?_comm]

theorem equalOf_self (e : Expr) :
  equalOf e e = .always
  := by
  unfold equalOf
  split
  · rename_i heq
    cases heq
    rw [decide_eq_true rfl]
    rfl
  · rw [if_pos rfl]

theorem truthOn_equalOf (row : Row) (ha : a.isText = true) (hb : b.isText = true) (hne : a ≠ b) :
  truthOn row (equalOf a b) = sameIfKnown (a.textOn row) (b.textOn row)
  := by
  rw [truthOn_equalOf_of_ne row hne, valueOn_of_isText ha, valueOn_of_isText hb]
  rfl

theorem truthOn_columnIs (row : Row) (c : Column) (value : String) :
  truthOn row (columnIs c value) = sameIfKnown (row.get? c) (some value)
  := truthOn_equalOf row rfl rfl (by simp)

/-- A column is equal to a text exactly when it has this text. -/
theorem truthOn_columnIs_eq_true {value : String} :
  truthOn row (columnIs c value) = some true ↔ row.get? c = some value
  := by
  rw [truthOn_columnIs]
  cases row.get? c <;> simp [sameIfKnown]

/-- Columns with known texts are equal exactly when the texts are. -/
theorem truthOn_columnsEqual {a b : Column} {s t : String} (ha : row.get? a = some s)
    (hb : row.get? b = some t) :
  truthOn row (columnsEqual a b) = some (decide (s = t))
  := by
  by_cases hab : a = b
  · subst hab
    rw [ha] at hb
    cases hb
    simp [columnsEqual, equalOf_self]
  · rw [columnsEqual, truthOn_equalOf row rfl rfl (by simpa using hab)]
    simp [textOn, valueOn, Value.asText, ha, hb, sameIfKnown]

/-! ### Which expressions are conditions -/

theorem isCondition_ofBool (b : Bool) :
  (ofBool b).isCondition = true
  := by
  cases b <;> rfl

theorem isCondition_andAll (h : ∀ e ∈ es, e.isCondition = true) :
  (andAll es).isCondition = true
  := Junction.all_of_iff .and h rfl rfl fun _ => isCondition_and

theorem isCondition_orAll (h : ∀ e ∈ es, e.isCondition = true) :
  (orAll es).isCondition = true
  := Junction.all_of_iff .or h rfl rfl fun _ => isCondition_or

theorem isCondition_notOf {e : Expr} (h : e.isCondition = true) :
  (notOf e).isCondition = true
  := by
  unfold notOf
  split
  · rfl
  · rfl
  · apply h
  · apply h

theorem isCondition_equalOf (h : (Expr.equal a b).isCondition = true) :
  (equalOf a b).isCondition = true
  := by
  unfold equalOf
  split
  · apply isCondition_ofBool
  · split
    · rfl
    · split
      · apply h
      · simpa [isCondition, and_comm] using h

theorem isCondition_columnIs (c : Column) (value : String) :
  (columnIs c value).isCondition = true
  := isCondition_equalOf rfl

theorem isCondition_columnsEqual (a b : Column) :
  (columnsEqual a b).isCondition = true
  := isCondition_equalOf rfl

/-- True operands do not matter. -/
theorem andAll_filter_ne_always (es : List Expr) :
  andAll (es.filter fun e => e ≠ .always) = andAll es
  := by
  apply Junction.all_congr .and
  · simp [Junction.absorbing]
  · intro x
    simp [Junction.mem_operands, Junction.neutral, Junction.node, and_assoc]

theorem andAll_eq_always (h : ∀ e ∈ es, e = .always) :
  andAll es = .always
  := Junction.all_eq_neutral .and h

/-! ### Columns of conditions -/

/-- All the columns of an expression are among the given ones. -/
def ReadsOnly (cs : List Column) (e : Expr) : Prop := ∀ c ∈ e.columnList, c ∈ cs

theorem readsOnly_and :
  ReadsOnly cs (.and es) ↔ ∀ e ∈ es, ReadsOnly cs e
  := by
  simp only [ReadsOnly, columnList, columnLists_eq_flatMap, List.mem_flatMap]
  constructor
  · intro h e he c hc
    apply h c ⟨e, he, hc⟩
  · rintro h c ⟨e, he, hc⟩
    apply h e he c hc

theorem readsOnly_or :
  ReadsOnly cs (.or es) ↔ ∀ e ∈ es, ReadsOnly cs e
  := readsOnly_and

theorem readsOnly_always (cs : List Column) :
  ReadsOnly cs .always
  := by
  simp [ReadsOnly, columnList]

theorem readsOnly_never (cs : List Column) :
  ReadsOnly cs .never
  := by
  simp [ReadsOnly, columnList]

theorem readsOnly_ofBool (cs : List Column) (b : Bool) :
  ReadsOnly cs (ofBool b)
  := by
  cases b
  · apply readsOnly_never
  · apply readsOnly_always

theorem readsOnly_andAll (h : ∀ e ∈ es, ReadsOnly cs e) :
  ReadsOnly cs (andAll es)
  := Junction.all_of_iff .and h (readsOnly_always cs) (readsOnly_never cs) fun _ => readsOnly_and

theorem readsOnly_orAll (h : ∀ e ∈ es, ReadsOnly cs e) :
  ReadsOnly cs (orAll es)
  := Junction.all_of_iff .or h (readsOnly_never cs) (readsOnly_always cs) fun _ => readsOnly_or

theorem readsOnly_notOf {e : Expr} (h : ReadsOnly cs e) :
  ReadsOnly cs (notOf e)
  := by
  unfold notOf
  split
  · apply readsOnly_never
  · apply readsOnly_always
  · apply h
  · apply h

theorem readsOnly_equalOf (ha : ReadsOnly cs a) (hb : ReadsOnly cs b) :
  ReadsOnly cs (equalOf a b)
  := by
  unfold equalOf
  split
  · apply readsOnly_ofBool
  · split
    · apply readsOnly_always
    · split
      · intro c hc
        rw [columnList, List.mem_append] at hc
        apply hc.elim (ha c) (hb c)
      · intro c hc
        rw [columnList, List.mem_append] at hc
        apply hc.elim (hb c) (ha c)

theorem readsOnly_columnIs (h : c ∈ cs) (value : String) :
  ReadsOnly cs (columnIs c value)
  := by
  apply readsOnly_equalOf
  · simpa [ReadsOnly, columnList] using h
  · simp [ReadsOnly, columnList]

theorem readsOnly_columnsEqual {a b : Column} (ha : a ∈ cs) (hb : b ∈ cs) :
  ReadsOnly cs (columnsEqual a b)
  := by
  apply readsOnly_equalOf
  · simpa [ReadsOnly, columnList] using ha
  · simpa [ReadsOnly, columnList] using hb

/-- A condition on given columns evaluates to its value wherever there are cells for these. -/
theorem eval_of_readsOnly {env : Env} {e : Expr} (hc : e.isCondition = true) (hr : ReadsOnly cs e)
    (h : env.Has cs) :
  eval env e = .ok (.truth (e.truthOn ⟨env⟩))
  := eval_of_isCondition hc fun c hcol => h c (hr c hcol)

/-! ### Conditions that are known -/

/-- The truth value of a condition on a row is known. -/
def Known (row : Row) (e : Expr) : Prop := (e.truthOn row).isSome

theorem known_ofBool (row : Row) (b : Bool) :
  Known row (ofBool b)
  := by
  simp [Known]

theorem known_all (j : Junction) (h : ∀ e ∈ es, Known row e) :
  Known row (j.all es)
  := by
  have hnone : none ∉ es.map (truthOn row) := by
    intro hmem
    obtain ⟨e, he, hnone⟩ := List.mem_map.1 hmem
    have hsome := h e he
    simp [Known, hnone] at hsome
  rw [Known, j.truthOn_all]
  apply j.isSome_truth hnone

theorem known_andAll (h : ∀ e ∈ es, Known row e) :
  Known row (andAll es)
  := known_all .and h

theorem known_orAll (h : ∀ e ∈ es, Known row e) :
  Known row (orAll es)
  := known_all .or h

theorem known_columnIs (h : (row.get? c).isSome) (value : String) :
  Known row (columnIs c value)
  := by
  obtain ⟨s, hs⟩ := Option.isSome_iff_exists.1 h
  simp [Known, truthOn_columnIs, hs, sameIfKnown]

theorem truthOn_orAll_eq_true :
  truthOn row (orAll es) = some true ↔ ∃ e ∈ es, truthOn row e = some true
  := by
  have hany : ∀ ts : List (Option Bool), anyTrue ts = some true ↔ some true ∈ ts := by
    intro ts
    rw [anyTrue]
    split
    · simp_all
    · split <;> simp_all
  rw [truthOn_orAll, hany, List.mem_map]

theorem truthOn_andAll_eq_true :
  truthOn row (andAll es) = some true ↔ ∀ e ∈ es, truthOn row e = some true
  := by
  rw [truthOn_andAll, allTrue_eq_true_iff, List.forall_mem_map]

/-! ### Columns that are mentioned -/

theorem mem_columnList_and :
  c ∈ (Expr.and es).columnList ↔ ∃ e ∈ es, c ∈ e.columnList
  := Junction.mem_columnList_node .and

theorem mem_columnList_or :
  c ∈ (Expr.or es).columnList ↔ ∃ e ∈ es, c ∈ e.columnList
  := Junction.mem_columnList_node .or

/-- A conjunction without the false condition mentions the columns of its operands. -/
theorem mem_columnList_andAll (h : Expr.never ∉ es) :
  c ∈ (andAll es).columnList ↔ ∃ e ∈ es, c ∈ e.columnList
  := Junction.mem_columnList_all .and h

/-- A disjunction without the true condition mentions the columns of its operands. -/
theorem mem_columnList_orAll (h : Expr.always ∉ es) :
  c ∈ (orAll es).columnList ↔ ∃ e ∈ es, c ∈ e.columnList
  := Junction.mem_columnList_all .or h

theorem never_notMem_of_andAll_ne (h : andAll es ≠ .never) :
  Expr.never ∉ es
  := by
  intro hmem
  apply h
  rw [andAll, if_pos hmem]

/-- A disjunction of false conditions is false. -/
theorem orAll_eq_never (h : ∀ e ∈ es, e = .never) :
  orAll es = .never
  := Junction.all_eq_neutral .or h

theorem mem_columnList_columnIs (c : Column) (value : String) :
  c ∈ (columnIs c value).columnList
  := by
  have hne : Expr.column c ≠ Expr.constant value := by simp
  simp only [columnIs, equalOf, if_neg hne]
  split <;> simp [columnList]

end Expr

end RelGraph.Sql
