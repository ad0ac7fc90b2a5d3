import RelGraph.Proofs.Sparql.Truth
import RelGraph.Sql.Database

/-!
# Values of SQL expressions on rows

An expression that uses conditions and strings where they belong has a value on every row, in
which a missing cell counts as unknown.  Where all its columns are there, this is the value to
which it evaluates.
-/

namespace RelGraph.Sql

open Sparql

variable {e : Expr} {es : List Expr} {env : Env}

namespace Expr

/-- Induction on expressions, with the hypothesis for every operand in a list. -/
@[induction_eliminator]
theorem induction {motive : Expr → Prop}
    (always : motive .always) (never : motive .never) (column : ∀ c, motive (.column c))
    (constant : ∀ s, motive (.constant s))
    (concat : ∀ es, (∀ e ∈ es, motive e) → motive (.concat es))
    (and : ∀ es, (∀ e ∈ es, motive e) → motive (.and es))
    (or : ∀ es, (∀ e ∈ es, motive e) → motive (.or es))
    (not : ∀ e, motive e → motive (.not e))
    (equal : ∀ a b, motive a → motive b → motive (.equal a b))
    (isNotNull : ∀ e, motive e → motive (.isNotNull e)) (e : Expr) :
  motive e
  := by
  apply @Expr.rec motive (fun es => ∀ e ∈ es, motive e) always never column constant concat and
    or not equal isNotNull
  · simp
  · intro e es he hes
    rw [List.forall_mem_cons]
    use he

/-! ### Strings and conditions -/

mutual

/-- The expression is a string. -/
def isText : Expr → Bool
  | .column _ => true
  | .constant _ => true
  | .concat es => areTexts es
  | _ => false

/-- All the expressions are strings. -/
def areTexts : List Expr → Bool
  | [] => true
  | e :: es => isText e && areTexts es

end

mutual

/-- The expression is a condition: its operands are conditions, and strings are compared with
strings. -/
def isCondition : Expr → Bool
  | .always => true
  | .never => true
  | .and es => areConditions es
  | .or es => areConditions es
  | .not e => isCondition e
  | .equal a b => (isText a && isText b) || (isCondition a && isCondition b)
  | .isNotNull e => isText e
  | _ => false

/-- All the expressions are conditions. -/
def areConditions : List Expr → Bool
  | [] => true
  | e :: es => isCondition e && areConditions es

end

theorem areTexts_eq_all (es : List Expr) :
  areTexts es = es.all isText
  := by
  induction es with
  | nil => rfl
  | cons e es ih => rw [areTexts, ih, List.all_cons]

theorem areConditions_eq_all (es : List Expr) :
  areConditions es = es.all isCondition
  := by
  induction es with
  | nil => rfl
  | cons e es ih => rw [areConditions, ih, List.all_cons]

theorem isCondition_and :
  (Expr.and es).isCondition = true ↔ ∀ e ∈ es, e.isCondition = true
  := by
  rw [isCondition, areConditions_eq_all, List.all_eq_true]

theorem isCondition_or :
  (Expr.or es).isCondition = true ↔ ∀ e ∈ es, e.isCondition = true
  := by
  rw [isCondition, areConditions_eq_all, List.all_eq_true]

end Expr

/-! ### Values on rows -/

/-- The value as a condition. -/
def Value.asTruth : Value → Option Bool
  | .truth v => v
  | .text _ => none

/-- The value as a string. -/
def Value.asText : Value → Cell
  | .text v => v
  | .truth _ => none

/-- Compares two values, unknown if one of them is or if they are not of one kind. -/
def Value.equal? : Value → Value → Option Bool
  | .text s, .text t => sameIfKnown s t
  | .truth s, .truth t => sameIfKnown s t
  | _, _ => none

/-- The concatenation of some strings, unknown if one of them is. -/
def joinTexts : List Cell → Cell
  | [] => some ""
  | t :: ts => t.bind fun s => (joinTexts ts).map (s ++ ·)

namespace Expr

mutual

/-- The value of an expression on a row, in which a missing cell is unknown. -/
def valueOn (row : Row) : Expr → Value
  | .always => .truth (some true)
  | .never => .truth (some false)
  | .column c => .text (row.get? c)
  | .constant s => .text (some s)
  | .concat es => .text (joinTexts ((valuesOn row es).map Value.asText))
  | .and es => .truth (allTrue ((valuesOn row es).map Value.asTruth))
  | .or es => .truth (anyTrue ((valuesOn row es).map Value.asTruth))
  | .not e => .truth ((valueOn row e).asTruth.map Bool.not)
  | .equal a b =>
    match valueOn row a, valueOn row b with
    | .text s, .text t => .truth (sameIfKnown s t)
    | v, w => .truth (sameIfKnown v.asTruth w.asTruth)
  | .isNotNull e => .truth (some (valueOn row e).asText.isSome)

/-- The values of some expressions on a row. -/
def valuesOn (row : Row) : List Expr → List Value
  | [] => []
  | e :: es => valueOn row e :: valuesOn row es

end

/-- The truth value of a condition on a row. -/
def truthOn (row : Row) (e : Expr) : Option Bool := (e.valueOn row).asTruth

/-- The text of a string on a row. -/
def textOn (row : Row) (e : Expr) : Cell := (e.valueOn row).asText

theorem valuesOn_eq_map (row : Row) (es : List Expr) :
  valuesOn row es = es.map (valueOn row)
  := by
  induction es with
  | nil => rfl
  | cons e es ih => rw [valuesOn, ih, List.map_cons]

@[simp]
theorem truthOn_always (row : Row) :
  truthOn row .always = some true
  := rfl

@[simp]
theorem truthOn_never (row : Row) :
  truthOn row .never = some false
  := rfl

theorem truthOn_and (row : Row) (es : List Expr) :
  truthOn row (.and es) = allTrue (es.map (truthOn row))
  := by
  change allTrue ((valuesOn row es).map Value.asTruth) = _
  rw [valuesOn_eq_map, List.map_map]
  rfl

theorem truthOn_or (row : Row) (es : List Expr) :
  truthOn row (.or es) = anyTrue (es.map (truthOn row))
  := by
  change anyTrue ((valuesOn row es).map Value.asTruth) = _
  rw [valuesOn_eq_map, List.map_map]
  rfl

theorem truthOn_not (row : Row) (e : Expr) :
  truthOn row (.not e) = (truthOn row e).map Bool.not
  := rfl

theorem valueOn_of_isText {row : Row} (h : e.isText = true) :
  e.valueOn row = .text (e.textOn row)
  := by
  cases e <;> simp [isText] at h <;> rfl

theorem valueOn_equal (row : Row) (a b : Expr) :
  (Expr.equal a b).valueOn row = .truth ((a.valueOn row).equal? (b.valueOn row))
  := by
  rw [valueOn]
  generalize a.valueOn row = v
  generalize b.valueOn row = w
  rcases v with v | v <;> rcases w with w | w
  · rfl
  · cases v <;> rfl
  · rfl
  · rfl

theorem truthOn_equal (row : Row) (a b : Expr) :
  truthOn row (.equal a b) = (a.valueOn row).equal? (b.valueOn row)
  := congrArg Value.asTruth (valueOn_equal row a b)

theorem valueOn_of_isCondition {row : Row} (h : e.isCondition = true) :
  e.valueOn row = .truth (e.truthOn row)
  := by
  cases e with
  | equal a b => rw [truthOn_equal, valueOn_equal]
  | _ => simp [isCondition] at h <;> rfl

theorem columnLists_eq_flatMap (es : List Expr) :
  columnLists es = es.flatMap columnList
  := by
  induction es with
  | nil => rfl
  | cons e es ih => rw [columnLists, ih, List.flatMap_cons]

/-- The columns of an operand are columns of the list of operands. -/
theorem forall_columnList_of_mem {P : Column → Prop} (h : ∀ c ∈ columnLists es, P c) (he : e ∈ es) :
  ∀ c ∈ e.columnList, P c
  := by
  intro c hc
  apply h
  rw [columnLists_eq_flatMap, List.mem_flatMap]
  use e

theorem valuesOn_congr {row row' : Row} (h : ∀ c ∈ columnLists es, row.get? c = row'.get? c)
    (ih : ∀ e ∈ es, (∀ c ∈ e.columnList, row.get? c = row'.get? c)
      → e.valueOn row = e.valueOn row') :
  valuesOn row es = valuesOn row' es
  := by
  rw [valuesOn_eq_map, valuesOn_eq_map]
  apply List.map_congr_left
  intro e he
  apply ih e he (forall_columnList_of_mem h he)

/-- The value of an expression depends on its columns only. -/
theorem valueOn_congr {row row' : Row} (h : ∀ c ∈ e.columnList, row.get? c = row'.get? c) :
  e.valueOn row = e.valueOn row'
  := by
  induction e with
  | always => rfl
  | never => rfl
  | column c => rw [valueOn, valueOn, h c (by simp [columnList])]
  | constant s => rfl
  | concat es ih => rw [valueOn, valueOn, valuesOn_congr h ih]
  | and es ih => rw [valueOn, valueOn, valuesOn_congr h ih]
  | or es ih => rw [valueOn, valueOn, valuesOn_congr h ih]
  | not e ih => rw [valueOn, valueOn, ih h]
  | equal a b iha ihb =>
    rw [columnList, List.forall_mem_append] at h
    rw [valueOn_equal, valueOn_equal, iha h.1, ihb h.2]
  | isNotNull e ih => rw [valueOn, valueOn, ih h]

theorem truthOn_congr {row row' : Row} (h : ∀ c ∈ e.columnList, row.get? c = row'.get? c) :
  e.truthOn row = e.truthOn row'
  := by
  rw [truthOn, truthOn, valueOn_congr h]

/-! ### Evaluation -/

end Expr

/-- The combination of rows has a cell for each of the columns. -/
def Env.Has (env : Env) (cs : List Column) : Prop :=
  ∀ c ∈ cs, (List.lookup c env).isSome

theorem Env.lookup_of_isSome {c : Column} (h : (List.lookup c env).isSome) :
  env.lookup c = .ok (Row.get? ⟨env⟩ c)
  := by
  obtain ⟨v, hv⟩ := Option.isSome_iff_exists.1 h
  rw [Env.lookup, Row.get?, hv]
  rfl

theorem Env.isSome_of_lookup {c : Column} {v : Cell} (h : env.lookup c = .ok v) :
  (List.lookup c env).isSome ∧ Row.get? ⟨env⟩ c = v
  := by
  rw [Env.lookup] at h
  rw [Row.get?]
  split at h
  · rename_i w hw
    cases h
    simp [hw]
  · cases h

namespace Expr

theorem has_of_mem (h : env.Has (columnLists es)) (he : e ∈ es) :
  env.Has e.columnList
  := forall_columnList_of_mem h he

theorem evalConcat_eq (h : ∀ e ∈ es, eval env e = .ok (.text (e.textOn ⟨env⟩))) :
  evalConcat env es = .ok (joinTexts (es.map (textOn ⟨env⟩)))
  := by
  induction es with
  | nil => rfl
  | cons e es ih =>
    rw [List.forall_mem_cons] at h
    rw [evalConcat, h.1, ih h.2, List.map_cons, joinTexts]
    cases e.textOn ⟨env⟩ <;> rfl

theorem evalAnd_eq (h : ∀ e ∈ es, eval env e = .ok (.truth (e.truthOn ⟨env⟩))) :
  evalAnd env es = .ok (allTrue (es.map (truthOn ⟨env⟩)))
  := by
  induction es with
  | nil => rfl
  | cons e es ih =>
    rw [List.forall_mem_cons] at h
    rw [evalAnd, h.1, ih h.2, List.map_cons, allTrue_cons]
    rcases e.truthOn ⟨env⟩ with _ | _ | _
      <;> rcases allTrue (es.map (truthOn ⟨env⟩)) with _ | _ | _ <;> rfl

theorem evalOr_eq (h : ∀ e ∈ es, eval env e = .ok (.truth (e.truthOn ⟨env⟩))) :
  evalOr env es = .ok (anyTrue (es.map (truthOn ⟨env⟩)))
  := by
  induction es with
  | nil => rfl
  | cons e es ih =>
    rw [List.forall_mem_cons] at h
    rw [evalOr, h.1, ih h.2, List.map_cons, anyTrue_cons]
    rcases e.truthOn ⟨env⟩ with _ | _ | _
      <;> rcases anyTrue (es.map (truthOn ⟨env⟩)) with _ | _ | _ <;> rfl

theorem eval_of_isText (ht : e.isText = true) (h : env.Has e.columnList) :
  eval env e = .ok (.text (e.textOn ⟨env⟩))
  := by
  induction e with
  | column c =>
    rw [eval, Env.lookup_of_isSome (h c (by simp [columnList]))]
    rfl
  | constant s => rfl
  | concat es ih =>
    rw [isText, areTexts_eq_all, List.all_eq_true] at ht
    rw [eval, evalConcat_eq fun e he => ih e he (ht e he) (has_of_mem h he), textOn, valueOn,
      valuesOn_eq_map, List.map_map]
    rfl
  | _ => simp [isText] at ht

/-- A condition all of whose columns are there evaluates to its value on the row. -/
theorem eval_of_isCondition (hc : e.isCondition = true) (h : env.Has e.columnList) :
  eval env e = .ok (.truth (e.truthOn ⟨env⟩))
  := by
  induction e with
  | always => rfl
  | never => rfl
  | and es ih =>
    rw [isCondition_and] at hc
    rw [eval, evalAnd_eq fun e he => ih e he (hc e he) (has_of_mem h he), truthOn_and]
    rfl
  | or es ih =>
    rw [isCondition_or] at hc
    rw [eval, evalOr_eq fun e he => ih e he (hc e he) (has_of_mem h he), truthOn_or]
    rfl
  | not e ih =>
    rw [eval, ih hc h]
    rfl
  | equal a b iha ihb =>
    have ha : env.Has a.columnList := fun c hc => h c (List.mem_append_left _ hc)
    have hb : env.Has b.columnList := fun c hc => h c (List.mem_append_right _ hc)
    rw [isCondition, Bool.or_eq_true, Bool.and_eq_true, Bool.and_eq_true] at hc
    rw [truthOn, valueOn]
    obtain hc | hc := hc
    · rw [eval, eval_of_isText hc.1 ha, eval_of_isText hc.2 hb, valueOn_of_isText hc.1,
        valueOn_of_isText hc.2]
      rfl
    · rw [eval, iha hc.1 ha, ihb hc.2 hb, valueOn_of_isCondition hc.1,
        valueOn_of_isCondition hc.2]
      rfl
  | isNotNull e ih =>
    rw [eval, eval_of_isText hc h]
    rfl
  | _ => simp [isCondition] at hc

end Expr

end RelGraph.Sql
