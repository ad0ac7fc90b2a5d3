import RelGraph.Proofs.Sql.Renaming
import RelGraph.Proofs.Sql.Typing

/-!
# The values of renamed expressions

Renaming rebuilds an expression by the simplifying constructors, which sort the operands again and
could merge them or decide a comparison.  Of an expression in normal form, that is one which these
constructors have built (`Expr.normal_iff_built`), nothing is lost if the renaming tells its columns
apart: on a row whose columns are renamed in the same way it is well-typed and has the same value,
and different expressions over these columns stay different (`Expr.rename_faithful`).
-/

namespace RelGraph.Sql

/-! ### Renaming the columns of a row -/

/-- The row with its columns under their new names. -/
def Env.rename (f : Column → Column) (env : Env) : Env := env.map fun cell => (f cell.1, cell.2)

/-- A cell is found under its new name if no other column has got this name. -/
theorem Env.lookup_rename {f : Column → Column} {env : Env} {c : Column}
    (h : ∀ cell ∈ env, f cell.1 = f c → cell.1 = c) :
  List.lookup (f c) (env.rename f) = List.lookup c env
  := by
  induction env with
  | nil => rfl
  | cons cell env ih =>
    rw [List.forall_mem_cons] at h
    have hsame : (f c == f cell.1) = (c == cell.1) := by
      rw [Bool.eq_iff_iff, beq_iff_eq, beq_iff_eq]
      constructor
      · intro heq
        apply (h.1 heq.symm).symm
      · apply congrArg f
    rw [Env.rename, List.map_cons, List.lookup_cons, List.lookup_cons, hsame, ← Env.rename, ih h.2]

namespace Expr

variable {f : Column → Column} {e e' a b : Expr} {env env' : Env} {k : Kind}

/-- The second row has the cells of the columns under their new names. -/
def Carries (f : Column → Column) (cs : List Column) (env env' : Env) : Prop :=
  ∀ c ∈ cs, List.lookup (f c) env' = List.lookup c env

theorem Carries.get? {cs : List Column} (h : Carries f cs env env') {c : Column} (hc : c ∈ cs) :
  Row.get? ⟨env'⟩ (f c) = Row.get? ⟨env⟩ c
  := by
  rw [Row.get?, Row.get?, h c hc]

/-! ### Renamed expressions -/

/-- On a row with the same cells under the new names, the renamed expression is well-typed. -/
theorem Renamed.typed (h : Renamed f e e') (htyped : Typed env k e)
    (hcells : Carries f e.columnList env env') :
  Typed env' k e'
  := by
  induction h generalizing k with
  | always =>
    cases htyped
    apply Typed.always
  | never =>
    cases htyped
    apply Typed.never
  | column c =>
    cases htyped with
    | column hc =>
      apply Typed.column
      rw [hcells c (by simp [columnList])]
      apply hc
  | constant s =>
    cases htyped
    apply Typed.constant
  | concat _ ih =>
    cases htyped with
    | concat hes =>
      apply Typed.concat
      rw [List.forall_mem_map]
      intro e he
      apply ih e he (hes e he) (forall_columnList_of_mem hcells he)
  | and _ ih =>
    cases htyped with
    | and hes =>
      apply Typed.and
      apply forall_mem_canonical_map
      intro e he
      apply ih e he (hes e he) (forall_columnList_of_mem hcells he)
  | or _ ih =>
    cases htyped with
    | or hes =>
      apply Typed.or
      apply forall_mem_canonical_map
      intro e he
      apply ih e he (hes e he) (forall_columnList_of_mem hcells he)
  | not _ ih =>
    cases htyped with
    | not he => apply Typed.not (ih he hcells)
  | equal _ _ iha ihb =>
    rw [Carries, columnList, List.forall_mem_append] at hcells
    cases htyped with
    | equal ha hb => apply Typed.equal (iha ha hcells.1) (ihb hb hcells.2)
  | swapped _ _ iha ihb =>
    rw [Carries, columnList, List.forall_mem_append] at hcells
    cases htyped with
    | equal ha hb => apply Typed.equal (ihb hb hcells.2) (iha ha hcells.1)
  | isNotNull _ ih =>
    cases htyped with
    | isNotNull he => apply Typed.isNotNull (ih he hcells)

/-- The value of a well-typed expression is found again after the renaming. -/
theorem Renamed.exists_eval (h : Renamed f e e') (htyped : Typed env k e)
    (hcells : Carries f e.columnList env env') :
  ∃ v, eval env e = .ok v ∧ eval env' e' = .ok v
  := by
  use e.valueOn ⟨env⟩, htyped.eval_eq
  rw [(h.typed htyped hcells).eval_eq, h.valueOn_eq fun c hc => hcells.get? hc]

/-- Expressions in normal form are told apart if their columns are. -/
theorem eq_of_rename_eq {cs : List Column} (hf : TellsApart f cs) (ha : Normal a) (hb : Normal b)
    (hacs : a.columnList ⊆ cs) (hbcs : b.columnList ⊆ cs) (h : rename f a = rename f b) :
  a = b
  := by
  obtain ⟨g, hg⟩ := hf.exists_back
  calc a
    _ = rename g (rename f a) := (ha.recovers fun c hc => hg c (hacs hc)).1.symm
    _ = rename g (rename f b) := by rw [h]
    _ = b := (hb.recovers fun c hc => hg c (hbcs hc)).1

/-- Let an expression be in normal form and a renaming tell its columns apart.  If it is well-typed
over a row, then on any row with the same cells under the new names the renamed expression is
well-typed and evaluates to the same value; such a row is the one with all its columns renamed, if
none of the others gets the new name of a column of the expression.  And different expressions in
normal form over these columns are renamed to different ones. -/
theorem rename_faithful (he : Normal e) (hf : TellsApart f e.columnList) :
  (∀ env env' k, Typed env k e → Carries f e.columnList env env'
      → Typed env' k (rename f e)
        ∧ ∃ v, eval env e = .ok v ∧ eval env' (rename f e) = .ok v)
    ∧ (∀ env k, Typed env k e
      → (∀ c ∈ e.columnList, ∀ cell ∈ env, f cell.1 = f c → cell.1 = c)
      → ∃ v, eval env e = .ok v ∧ eval (env.rename f) (rename f e) = .ok v)
    ∧ ∀ a b, Normal a → Normal b → a.columnList ⊆ e.columnList → b.columnList ⊆ e.columnList
      → rename f a = rename f b → a = b
  := by
  obtain ⟨g, hg⟩ := hf.exists_back
  have hrenamed : Renamed f e (rename f e) := he.renamed hg
  refine ⟨?_, ?_, ?_⟩
  · intro env env' k htyped hcells
    use hrenamed.typed htyped hcells
    apply hrenamed.exists_eval htyped hcells
  · intro env k htyped hothers
    apply hrenamed.exists_eval htyped
    intro c hc
    apply Env.lookup_rename (hothers c hc)
  · intro a b ha hb hacs hbcs
    apply eq_of_rename_eq hf ha hb hacs hbcs

/-- The renaming that exchanges two columns. -/
def exchanged (c d x : Column) : Column := if x = c then d else if x = d then c else x

theorem exchanged_involutive (c d : Column) :
  Function.Involutive (exchanged c d)
  := by
  intro x
  unfold exchanged
  grind

/-- The superior of a person. -/
def superior : Column := ⟨⟨none, "people"⟩, "boss"⟩

/-- The number of a person. -/
def own : Column := ⟨⟨none, "people"⟩, "id"⟩

/-- One of the first two people is their own superior. -/
def ownSuperior : Expr :=
  andAll [orAll [columnIs superior "2", columnIs own "1"], columnsEqual superior own]

/-- A person without a superior. -/
def topPerson : Env := [(superior, none), (own, some "1")]

/-- When the two columns are exchanged, the sides of the comparison and the operands of the
disjunction change their places.  The value is unknown before and after. -/
theorem rename_faithful_ownSuperior :
  (∃ v, eval topPerson ownSuperior = .ok v
      ∧ eval (topPerson.rename (exchanged superior own))
        (rename (exchanged superior own) ownSuperior) = .ok v)
    ∧ rename (exchanged superior own) ownSuperior
      ≠ rename (exchanged superior own) (columnsEqual superior own)
  := by
  have hequal : Built (columnsEqual superior own) := .equalOf (.column _) (.column _)
  have hbuilt : Built ownSuperior := by
    have hsecond : Built (columnIs superior "2") := .equalOf (.column _) (.constant _)
    have hfirst : Built (columnIs own "1") := .equalOf (.column _) (.constant _)
    have heither : Built (orAll [columnIs superior "2", columnIs own "1"]) :=
      .orAll (by simp [hsecond, hfirst])
    apply Built.andAll
    simp [heither, hequal]
  have htyped : Typed topPerson .condition ownSuperior := by
    have hsuperior : Typed topPerson .text (.column superior) := .column rfl
    have hown : Typed topPerson .text (.column own) := .column rfl
    have hsecond : Typed topPerson .condition (columnIs superior "2") :=
      typed_equalOf hsuperior (.constant _)
    have hfirst : Typed topPerson .condition (columnIs own "1") :=
      typed_equalOf hown (.constant _)
    have heither : Typed topPerson .condition (orAll [columnIs superior "2", columnIs own "1"]) :=
      typed_orAll (by simp [hsecond, hfirst])
    have hsame : Typed topPerson .condition (columnsEqual superior own) :=
      typed_equalOf hsuperior hown
    apply typed_andAll
    simp [heither, hsame]
  have hinjective := (exchanged_involutive superior own).injective
  obtain ⟨-, hvalue, hdistinct⟩ := rename_faithful hbuilt.normal hinjective.injOn
  constructor
  · apply hvalue _ _ htyped
    intro c _ cell _ heq
    apply hinjective heq
  · intro heq
    have : ownSuperior = columnsEqual superior own :=
      hdistinct _ _ hbuilt.normal hequal.normal (List.Subset.refl _) (by decide) heq
    revert this
    decide

end Expr

end RelGraph.Sql
