import Mathlib.Data.Set.Function
import RelGraph.Proofs.Sql.Normal

/-!
# Renaming the columns of expressions

Renaming simplifies what it builds, so that in general it may lose operands and compare an
expression with itself.  It does not if the expression is in normal form and the new names can be
told apart: then the renamed expression has the same form and can be renamed back, and on a row
whose cells are renamed as well it has the same value.
-/

namespace RelGraph.Sql.Expr

open Spelled Sparql

variable {es : List Expr}

/-! ### Columns that are told apart -/

/-- The renaming tells the columns apart. -/
def TellsApart (f : Column → Column) (cs : List Column) : Prop := Set.InjOn f {c | c ∈ cs}

namespace TellsApart

variable {f : Column → Column} {cs ds : List Column}

theorem mono (h : TellsApart f ds) (hsub : cs ⊆ ds) :
  TellsApart f cs
  := Set.InjOn.mono hsub h

/-- Columns that are told apart can be renamed back. -/
theorem exists_back (h : TellsApart f cs) :
  ∃ g : Column → Column, ∀ c ∈ cs, g (f c) = c
  := by
  have : Nonempty Column := ⟨⟨⟨none, ""⟩, ""⟩⟩
  use Function.invFunOn f {c | c ∈ cs}
  intro c hc
  apply h.leftInvOn_invFunOn hc

end TellsApart

/-! ### The form of a renamed expression -/

section

variable {f g : Column → Column}

theorem renameAll_eq_map (f : Column → Column) (es : List Expr) :
  renameAll f es = es.map (rename f)
  := by
  induction es with
  | nil => rfl
  | cons e es ih => rw [renameAll, ih, List.map_cons]

theorem rename_concat_eq (f : Column → Column) (es : List Expr) :
  rename f (.concat es) = concatOf (es.map (rename f))
  := congrArg concatOf (renameAll_eq_map f es)

theorem rename_and_eq (f : Column → Column) (es : List Expr) :
  rename f (.and es) = andAll (es.map (rename f))
  := congrArg andAll (renameAll_eq_map f es)

theorem rename_or_eq (f : Column → Column) (es : List Expr) :
  rename f (.or es) = orAll (es.map (rename f))
  := congrArg orAll (renameAll_eq_map f es)

/-- The renamed expression has the same form and can be renamed back. -/
def Recovers (f g : Column → Column) (e : Expr) : Prop :=
  rename g (rename f e) = e ∧ (rename f e).form = e.form

theorem isConjunct_of_form_eq {e e' : Expr} (h : e'.form = e.form) :
  e'.isConjunct = e.isConjunct
  := by
  rw [isConjunct, isConjunct, h]

theorem isDisjunct_of_form_eq {e e' : Expr} (h : e'.form = e.form) :
  e'.isDisjunct = e.isDisjunct
  := by
  rw [isDisjunct, isDisjunct, h]

/-- Operands that can be renamed back stay apart. -/
theorem two_le_length_canonical_map (hlength : 2 ≤ es.length) (hincreasing : Increasing es)
    (h : ∀ e ∈ es, Recovers f g e) :
  2 ≤ (canonical (es.map (rename f))).length
  := by
  have hnodup : (es.map (rename f)).Nodup := by
    apply (nodup_of_increasing hincreasing).map_on
    intro a ha b hb hab
    rw [← (h a ha).1, hab, (h b hb).1]
  rw [(perm_canonical hnodup).length_eq, List.length_map]
  apply hlength

theorem rename_concat (hlength : 2 ≤ es.length) (hform : ∀ e ∈ es, e.form ≠ .constant "")
    (h : ∀ e ∈ es, Recovers f g e) :
  rename f (.concat es) = .concat (es.map (rename f))
  := by
  rw [rename_concat_eq, concatOf_of_form_ne _ (by simpa using hlength)]
  rw [List.forall_mem_map]
  intro e he
  rw [(h e he).2]
  apply hform e he

theorem rename_and (hlength : 2 ≤ es.length) (hincreasing : Increasing es)
    (hform : ∀ e ∈ es, e.isConjunct = true) (h : ∀ e ∈ es, Recovers f g e) :
  rename f (.and es) = .and (canonical (es.map (rename f)))
  := by
  rw [rename_and_eq, andAll_of_isConjunct _ (two_le_length_canonical_map hlength hincreasing h)]
  rw [List.forall_mem_map]
  intro e he
  rw [isConjunct_of_form_eq (h e he).2]
  apply hform e he

theorem rename_or (hlength : 2 ≤ es.length) (hincreasing : Increasing es)
    (hform : ∀ e ∈ es, e.isDisjunct = true) (h : ∀ e ∈ es, Recovers f g e) :
  rename f (.or es) = .or (canonical (es.map (rename f)))
  := by
  rw [rename_or_eq, orAll_of_isDisjunct _ (two_le_length_canonical_map hlength hincreasing h)]
  rw [List.forall_mem_map]
  intro e he
  rw [isDisjunct_of_form_eq (h e he).2]
  apply hform e he

theorem rename_not {e : Expr} (hform : e.isNegatable = true) (h : Recovers f g e) :
  rename f (.not e) = .not (rename f e)
  := by
  apply notOf_of_isNegatable
  rw [← hform, isNegatable, isNegatable, h.2]

theorem rename_equal {a b : Expr} (hne : a ≠ b) (hform : areConstants a b = false)
    (ha : Recovers f g a) (hb : Recovers f g b) :
  rename f (.equal a b) = if le (rename f a) (rename f b) then .equal (rename f a) (rename f b)
    else .equal (rename f b) (rename f a)
  := by
  apply equalOf_of_ne
  · intro hab
    apply hne
    rw [← ha.1, hab, hb.1]
  · rw [← hform, areConstants, areConstants, ha.2, hb.2]

theorem canonical_map_rename_back (hincreasing : Increasing es) (h : ∀ e ∈ es, Recovers f g e) :
  canonical ((canonical (es.map (rename f))).map (rename g)) = es
  := by
  rw [← canonical_of_increasing hincreasing]
  apply canonical_congr
  intro e
  simp only [List.mem_map, mem_canonical, exists_exists_and_eq_and]
  constructor
  · rintro ⟨e', he', rfl⟩
    rw [(h e' he').1]
    apply he'
  · intro he
    use e, he, (h e he).1

/-- Members of the renamed operands have the form of an operand. -/
theorem forall_mem_canonical_map {P : Expr → Prop} (h : ∀ e ∈ es, P (rename f e)) :
  ∀ e ∈ canonical (es.map (rename f)), P e
  := by
  intro e he
  rw [mem_canonical] at he
  obtain ⟨e', he', rfl⟩ := List.mem_map.1 he
  apply h e' he'

/-- An expression in normal form can be renamed back if its columns can. -/
theorem Normal.recovers {e : Expr} (h : Normal e) (hg : ∀ c ∈ e.columnList, g (f c) = c) :
  Recovers f g e
  := by
  induction h with
  | always => constructor <;> rfl
  | never => constructor <;> rfl
  | column c =>
    constructor
    · rw [rename, rename, hg c (by simp [columnList])]
    · rfl
  | constant s => constructor <;> rfl
  | @concat es _ hlength hform ih =>
    have hes : ∀ e ∈ es, Recovers f g e := fun e he => ih e he (forall_columnList_of_mem hg he)
    constructor
    · have hback : (es.map (rename f)).map (rename g) = es := by
        rw [List.map_map]
        nth_rewrite 2 [← List.map_id es]
        apply List.map_congr_left
        intro e he
        apply (hes e he).1
      rw [rename_concat hlength hform hes, rename_concat_eq, hback,
        concatOf_of_form_ne hform hlength]
    · rw [rename_concat hlength hform hes]
      rfl
  | @and es _ hlength hincreasing hform ih =>
    have hes : ∀ e ∈ es, Recovers f g e := fun e he => ih e he (forall_columnList_of_mem hg he)
    constructor
    · rw [rename_and hlength hincreasing hform hes, rename_and_eq,
        andAll_of_isConjunct, canonical_map_rename_back hincreasing hes]
      · rw [List.forall_mem_map]
        apply forall_mem_canonical_map
        intro e he
        rw [(hes e he).1]
        apply hform e he
      · rw [canonical_map_rename_back hincreasing hes]
        apply hlength
    · rw [rename_and hlength hincreasing hform hes]
      rfl
  | @or es _ hlength hincreasing hform ih =>
    have hes : ∀ e ∈ es, Recovers f g e := fun e he => ih e he (forall_columnList_of_mem hg he)
    constructor
    · rw [rename_or hlength hincreasing hform hes, rename_or_eq,
        orAll_of_isDisjunct, canonical_map_rename_back hincreasing hes]
      · rw [List.forall_mem_map]
        apply forall_mem_canonical_map
        intro e he
        rw [(hes e he).1]
        apply hform e he
      · rw [canonical_map_rename_back hincreasing hes]
        apply hlength
    · rw [rename_or hlength hincreasing hform hes]
      rfl
  | not h hform ih =>
    constructor
    · rw [rename_not hform (ih hg), rename, (ih hg).1, notOf_of_isNegatable hform]
    · rw [rename_not hform (ih hg)]
      rfl
  | equal ha hb hne hle hform iha ihb =>
    rw [columnList, List.forall_mem_append] at hg
    have hra := iha hg.1
    have hrb := ihb hg.2
    rw [Recovers, rename_equal hne hform hra hrb]
    split
    · constructor
      · rw [rename, hra.1, hrb.1, equalOf_of_ne hne hform, if_pos hle]
      · rfl
    · constructor
      · -- the smaller one comes first again
        have hnot : ¬ le _ _ = true := fun h => hne (eq_of_le_of_le hle h)
        rw [areConstants_comm] at hform
        rw [rename, hra.1, hrb.1, equalOf_of_ne (Ne.symm hne) hform, if_neg hnot]
      · rfl
  | isNotNull h ih =>
    constructor
    · rw [rename, rename, (ih hg).1]
    · rfl

/-- The second expression is built in the same way as the first one, from the new names of the
columns.  The operands of conjunctions and disjunctions, and the sides of a comparison, may have
changed their places. -/
inductive Renamed (f : Column → Column) : Expr → Expr → Prop
  | always : Renamed f .always .always
  | never : Renamed f .never .never
  | column (c : Column) : Renamed f (.column c) (.column (f c))
  | constant (s : String) : Renamed f (.constant s) (.constant s)
  | concat {es : List Expr} (h : ∀ e ∈ es, Renamed f e (rename f e)) :
    Renamed f (.concat es) (.concat (es.map (rename f)))
  | and {es : List Expr} (h : ∀ e ∈ es, Renamed f e (rename f e)) :
    Renamed f (.and es) (.and (canonical (es.map (rename f))))
  | or {es : List Expr} (h : ∀ e ∈ es, Renamed f e (rename f e)) :
    Renamed f (.or es) (.or (canonical (es.map (rename f))))
  | not {e e' : Expr} (h : Renamed f e e') : Renamed f (.not e) (.not e')
  | equal {a b a' b' : Expr} (ha : Renamed f a a') (hb : Renamed f b b') :
    Renamed f (.equal a b) (.equal a' b')
  | swapped {a b a' b' : Expr} (ha : Renamed f a a') (hb : Renamed f b b') :
    Renamed f (.equal a b) (.equal b' a')
  | isNotNull {e e' : Expr} (h : Renamed f e e') : Renamed f (.isNotNull e) (.isNotNull e')

/-- Renaming an expression in normal form only changes the names. -/
theorem Normal.renamed {e : Expr} (h : Normal e) (hg : ∀ c ∈ e.columnList, g (f c) = c) :
  Renamed f e (rename f e)
  := by
  induction h with
  | always => apply Renamed.always
  | never => apply Renamed.never
  | column c => apply Renamed.column
  | constant s => apply Renamed.constant
  | concat h hlength hform ih =>
    have hes := fun e he => (h e he).recovers (forall_columnList_of_mem hg he)
    rw [rename_concat hlength hform hes]
    apply Renamed.concat fun e he => ih e he (forall_columnList_of_mem hg he)
  | and h hlength hincreasing hform ih =>
    have hes := fun e he => (h e he).recovers (forall_columnList_of_mem hg he)
    rw [rename_and hlength hincreasing hform hes]
    apply Renamed.and fun e he => ih e he (forall_columnList_of_mem hg he)
  | or h hlength hincreasing hform ih =>
    have hes := fun e he => (h e he).recovers (forall_columnList_of_mem hg he)
    rw [rename_or hlength hincreasing hform hes]
    apply Renamed.or fun e he => ih e he (forall_columnList_of_mem hg he)
  | not h hform ih =>
    rw [rename_not hform (h.recovers hg)]
    apply Renamed.not (ih hg)
  | equal ha hb hne hle hform iha ihb =>
    rw [columnList, List.forall_mem_append] at hg
    rw [rename_equal hne hform (ha.recovers hg.1) (hb.recovers hg.2)]
    split
    · apply Renamed.equal (iha hg.1) (ihb hg.2)
    · apply Renamed.swapped (iha hg.1) (ihb hg.2)
  | isNotNull h ih => apply Renamed.isNotNull (ih hg)

end

/-! ### What renaming keeps -/

/-- A renamed expression has no columns but the new names of its columns. -/
theorem readsOnly_rename (f : Column → Column) (e : Expr) :
  ReadsOnly (e.columnList.map f) (rename f e)
  := by
  -- the columns of an operand are among those of the whole, so the list is kept
  suffices h : ∀ cs, (∀ c ∈ e.columnList, f c ∈ cs) → ReadsOnly cs (rename f e) by
    apply h
    intro c hc
    apply List.mem_map_of_mem hc
  intro cs hcs
  induction e with
  | always | never | constant s => simp [ReadsOnly, rename, columnList]
  | column c => simpa [ReadsOnly, rename, columnList] using hcs
  | concat es ih =>
    rw [rename_concat_eq]
    apply concatOf_induct
    · rw [List.forall_mem_map]
      intro e he
      apply ih e he (forall_columnList_of_mem hcs he)
    · simp [ReadsOnly, columnList]
    · intro es hes _ _
      apply readsOnly_and.2 hes
  | and es ih =>
    rw [rename_and_eq]
    apply readsOnly_andAll
    rw [List.forall_mem_map]
    intro e he
    apply ih e he (forall_columnList_of_mem hcs he)
  | or es ih =>
    rw [rename_or_eq]
    apply readsOnly_orAll
    rw [List.forall_mem_map]
    intro e he
    apply ih e he (forall_columnList_of_mem hcs he)
  | not e ih => apply readsOnly_notOf (ih hcs)
  | equal a b iha ihb =>
    rw [columnList, List.forall_mem_append] at hcs
    apply readsOnly_equalOf (iha hcs.1) (ihb hcs.2)
  | isNotNull e ih => apply ih hcs

/-- A renamed string is a string. -/
theorem isText_rename (f : Column → Column) {e : Expr} (h : e.isText = true) :
  (rename f e).isText = true
  := by
  induction e with
  | column c | constant s => rfl
  | concat es ih =>
    rw [isText, areTexts_eq_all, List.all_eq_true] at h
    rw [rename_concat_eq]
    apply concatOf_induct (P := fun e => e.isText = true)
    · rw [List.forall_mem_map]
      exact fun e he => ih e he (h e he)
    · rfl
    · intro es hes _ _
      rw [isText, areTexts_eq_all, List.all_eq_true]
      apply hes
  | _ => cases h

/-- A renamed condition is a condition, also if it is not in normal form. -/
theorem isCondition_rename (f : Column → Column) {e : Expr} (h : e.isCondition = true) :
  (rename f e).isCondition = true
  := by
  induction e with
  | always | never => rfl
  | and es ih =>
    rw [isCondition_and] at h
    rw [rename_and_eq]
    apply isCondition_andAll
    rw [List.forall_mem_map]
    exact fun e he => ih e he (h e he)
  | or es ih =>
    rw [isCondition_or] at h
    rw [rename_or_eq]
    apply isCondition_orAll
    rw [List.forall_mem_map]
    exact fun e he => ih e he (h e he)
  | not e ih => apply isCondition_notOf (ih h)
  | equal a b iha ihb =>
    apply isCondition_equalOf
    rw [isCondition, Bool.or_eq_true, Bool.and_eq_true, Bool.and_eq_true] at h ⊢
    exact h.imp (And.imp (isText_rename f) (isText_rename f)) (And.imp iha ihb)
  | isNotNull e ih => apply isText_rename f h
  | _ => cases h

theorem valueOn_and (row : Row) (es : List Expr) :
  (Expr.and es).valueOn row = .truth (allTrue (es.map (truthOn row)))
  := by
  rw [← truthOn_and]
  rfl

theorem valueOn_or (row : Row) (es : List Expr) :
  (Expr.or es).valueOn row = .truth (anyTrue (es.map (truthOn row)))
  := by
  rw [← truthOn_or]
  rfl

theorem valueOn_equal_comm (row : Row) (a b : Expr) :
  (Expr.equal a b).valueOn row = (Expr.equal b a).valueOn row
  := by
  rw [valueOn, valueOn]
  cases a.valueOn row <;> cases b.valueOn row <;> simp [sameIfKnown_comm]

namespace Renamed

variable {f : Column → Column} {e e' : Expr}

/-- On a row with the same cells under the new names, the renamed expression has the same value. -/
theorem valueOn_eq (h : Renamed f e e') {row row' : Row}
    (hrow : ∀ c ∈ e.columnList, row'.get? (f c) = row.get? c) :
  e'.valueOn row' = e.valueOn row
  := by
  induction h with
  | always => rfl
  | never => rfl
  | column c => rw [valueOn, valueOn, hrow c (by simp [columnList])]
  | constant s => rfl
  | @concat es _ ih =>
    have hes : (es.map (rename f)).map (valueOn row') = es.map (valueOn row) := by
      rw [List.map_map]
      apply List.map_congr_left fun e he => ih e he (forall_columnList_of_mem hrow he)
    rw [valueOn, valueOn, valuesOn_eq_map, valuesOn_eq_map, hes]
  | @and es _ ih =>
    have hes : (es.map (rename f)).map (truthOn row') = es.map (truthOn row) := by
      rw [List.map_map]
      apply List.map_congr_left
      intro e he
      apply congrArg Value.asTruth (ih e he (forall_columnList_of_mem hrow he))
    rw [valueOn_and, valueOn_and, allTrue_map_canonical, hes]
  | @or es _ ih =>
    have hes : (es.map (rename f)).map (truthOn row') = es.map (truthOn row) := by
      rw [List.map_map]
      apply List.map_congr_left
      intro e he
      apply congrArg Value.asTruth (ih e he (forall_columnList_of_mem hrow he))
    rw [valueOn_or, valueOn_or, anyTrue_map_canonical, hes]
  | not _ ih => rw [valueOn, valueOn, ih hrow]
  | equal _ _ iha ihb =>
    rw [columnList, List.forall_mem_append] at hrow
    rw [valueOn_equal, valueOn_equal, iha hrow.1, ihb hrow.2]
  | swapped _ _ iha ihb =>
    rw [columnList, List.forall_mem_append] at hrow
    rw [valueOn_equal_comm, valueOn_equal, valueOn_equal, iha hrow.1, ihb hrow.2]
  | isNotNull _ ih => rw [valueOn, valueOn, ih hrow]

theorem truthOn_eq (h : Renamed f e e') {row row' : Row}
    (hrow : ∀ c ∈ e.columnList, row'.get? (f c) = row.get? c) :
  e'.truthOn row' = e.truthOn row
  := by
  rw [truthOn, truthOn, h.valueOn_eq hrow]

theorem exists_mem_map_rename {c : Column}
    (h : ∀ e ∈ es, c ∈ (rename f e).columnList ↔ ∃ d ∈ e.columnList, f d = c) :
  (∃ e ∈ es.map (rename f), c ∈ e.columnList)
    ↔ ∃ d, (∃ e ∈ es, d ∈ e.columnList) ∧ f d = c
  := by
  simp only [List.mem_map]
  constructor
  · rintro ⟨_, ⟨e, he, rfl⟩, hc⟩
    obtain ⟨d, hd, rfl⟩ := (h e he).1 hc
    use d, ⟨e, he, hd⟩
  · rintro ⟨d, ⟨e, he, hd⟩, rfl⟩
    use rename f e, ⟨e, he, rfl⟩
    apply (h e he).2 ⟨d, hd, rfl⟩

/-- The columns of the renamed expression are the new names of its columns. -/
theorem mem_columnList_iff (h : Renamed f e e') {c : Column} :
  c ∈ e'.columnList ↔ ∃ d ∈ e.columnList, f d = c
  := by
  induction h with
  | always => simp [columnList]
  | never => simp [columnList]
  | column d => simp [columnList, eq_comm]
  | constant s => simp [columnList]
  | concat _ ih =>
    simp only [columnList, columnLists_eq_flatMap, List.mem_flatMap]
    apply exists_mem_map_rename ih
  | and _ ih =>
    simp only [mem_columnList_and, mem_canonical]
    apply exists_mem_map_rename ih
  | or _ ih =>
    simp only [mem_columnList_or, mem_canonical]
    apply exists_mem_map_rename ih
  | not _ ih => simp only [columnList, ih]
  | equal _ _ iha ihb => simp only [columnList, List.mem_append, iha, ihb, or_and_right, exists_or]
  | swapped _ _ iha ihb =>
    simp only [columnList, List.mem_append, iha, ihb, or_and_right, exists_or]
    apply or_comm
  | isNotNull _ ih => simp only [columnList, ih]

end Renamed

end RelGraph.Sql.Expr
