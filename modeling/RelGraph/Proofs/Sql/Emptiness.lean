import RelGraph.Proofs.Sql.Product
import RelGraph.Proofs.Sql.RenameTables
import RelGraph.Proofs.Sql.Simplified

/-!
# Relations without rows

A relation whose condition is false is the empty one.  Every operation keeps it so, except for the
renaming of tables: where two columns get one name, their comparison turns true, and a condition
that negates it turns false.  A renaming that tells apart the columns under a negation keeps it so as
well (`Relation.eq_empty_of_never`).
-/

namespace RelGraph.Sql

namespace Expr

variable {es : List Expr} {e a b : Expr} {f : Column → Column}

/-! ### Conditions that turn false -/

/-- Renaming builds its result by the simplifying constructors. -/
theorem built_rename (f : Column → Column) (e : Expr) :
  Built (rename f e)
  := by
  induction e with
  | always => apply Built.always
  | never => apply Built.never
  | column c => apply Built.column
  | constant s => apply Built.constant
  | concat es ih =>
    rw [rename_concat_eq]
    apply Built.concatOf (List.forall_mem_map.2 ih)
  | and es ih =>
    rw [rename_and_eq]
    apply Built.andAll (List.forall_mem_map.2 ih)
  | or es ih =>
    rw [rename_or_eq]
    apply Built.orAll (List.forall_mem_map.2 ih)
  | not e ih => apply Built.notOf ih
  | equal a b iha ihb => apply Built.equalOf iha ihb
  | isNotNull e ih => apply Built.isNotNull ih

namespace Junction

variable (j : Junction)

theorem normal_node (h : Normal (j.node es)) :
  2 ≤ es.length ∧ ∀ e ∈ es, j.isOperand e = true
  := by
  cases j with
  | and =>
    cases h with
    | and _ hlength _ hform => use hlength, hform
  | or =>
    cases h with
    | or _ hlength _ hform => use hlength, hform

theorem flat_of_normal (h : ∀ e ∈ es, Normal e) :
  j.Flat es
  := by
  intro inner hinner
  apply (j.normal_node (h _ hinner)).2

theorem collapse_ne_neutral (h : ∀ e ∈ es, j.isOperand e = true) (hne : es ≠ []) :
  j.collapse es ≠ j.neutral
  := by
  obtain _ | ⟨a, _ | ⟨b, es⟩⟩ := es
  · apply absurd rfl hne
  · apply (j.isOperand_iff.1 (h a (List.mem_singleton_self a))).1
  · rw [collapse_of_two_le j (by simp)]
    apply j.node_ne_neutral

/-- An operand that is not neutral is left, or the operands of it are. -/
theorem operands_ne_nil (h : Normal e) (he : e ∈ es) (hne : e ≠ j.neutral) :
  j.operands es ≠ []
  := by
  suffices hx : ∃ x, x ∈ j.operands es by
    obtain ⟨x, hx⟩ := hx
    apply List.ne_nil_of_mem hx
  by_cases hnode : ∃ inner, e = j.node inner
  · obtain ⟨inner, rfl⟩ := hnode
    obtain ⟨x, hx⟩ := List.exists_mem_of_length_pos
      (Nat.lt_of_lt_of_le Nat.zero_lt_two (j.normal_node h).1)
    use x
    apply j.mem_operands.2 (Or.inr ⟨inner, he, hx⟩)
  · use e
    apply j.mem_operands.2 (Or.inl ⟨he, hne, not_exists.1 hnode⟩)

/-- Operands in normal form are neutral together only if each of them is. -/
theorem eq_neutral_of_all (h : ∀ e ∈ es, Normal e) (hall : j.all es = j.neutral) (he : e ∈ es) :
  e = j.neutral
  := by
  by_contra hne
  rw [all_eq] at hall
  split at hall
  · apply j.absorbing_ne_neutral hall
  · rename_i hmem
    apply j.collapse_ne_neutral _ (canonical_ne_nil (j.operands_ne_nil (h e he) he hne)) hall
    intro x hx
    apply j.isOperand_of_mem (j.flat_of_normal h) hmem (mem_canonical.1 hx)

end Junction

theorem equalOf_ne_never (h : areConstants a b = false) :
  equalOf a b ≠ .never
  := by
  by_cases hab : a = b
  · subst hab
    unfold equalOf
    split
    · simp [areConstants, form] at h
    · simp
  · rw [equalOf_of_ne hab h]
    split <;> simp

/-- The columns of an expression that is no string. -/
def looseColumns (e : Expr) : List Column := if e.isText then [] else e.columnList

mutual

/-- The columns that a renaming has to tell apart if it is not to turn the condition false: those
under a negation, and those of conditions that stand in the place of a string. -/
def pivots : Expr → List Column
  | .concat es => looseColumns (.concat es)
  | .and es => pivotsOf es
  | .or es => pivotsOf es
  | .not e => e.columnList
  | .equal a b => a.looseColumns ++ b.looseColumns
  | _ => []

/-- The columns of some conditions that a renaming has to tell apart. -/
def pivotsOf : List Expr → List Column
  | [] => []
  | e :: es => pivots e ++ pivotsOf es

end

theorem pivots_subset_pivotsOf (he : e ∈ es) :
  e.pivots ⊆ pivotsOf es
  := by
  induction es with
  | nil => cases he
  | cons x es ih =>
    rw [pivotsOf]
    obtain rfl | he := List.mem_cons.1 he
    · apply List.subset_append_left
    · apply List.subset_append_of_subset_right _ (ih he)

/-- An expression in normal form keeps its form if its columns are told apart. -/
theorem Normal.form_rename (h : Normal e) (hf : TellsApart f e.columnList) :
  (rename f e).form = e.form
  := by
  obtain ⟨g, hg⟩ := hf.exists_back
  apply (h.recovers hg).2

/-- A string in normal form always keeps its form. -/
theorem Normal.form_rename_of_isText (h : Normal e) (ht : e.isText = true) :
  (rename f e).form = e.form
  := by
  induction h with
  | @concat es _ hlength hform ih =>
    rw [isText, areTexts_eq_all, List.all_eq_true] at ht
    rw [rename_concat_eq, concatOf_of_form_ne _ (by simpa using hlength)]
    · rfl
    · rw [List.forall_mem_map]
      intro e he
      rw [ih e he (ht e he)]
      apply hform e he
  | column c => rfl
  | constant s => rfl
  | _ => cases ht

theorem Normal.form_rename_of_looseColumns (h : Normal e) (hf : TellsApart f e.looseColumns) :
  (rename f e).form = e.form
  := by
  by_cases ht : e.isText = true
  · apply h.form_rename_of_isText ht
  · rw [looseColumns, if_neg ht] at hf
    apply h.form_rename hf

/-- A condition does not turn false if the columns under its negations are told apart. -/
theorem Normal.rename_ne_never (h : Normal e) (hne : e ≠ .never) (hf : TellsApart f e.pivots) :
  rename f e ≠ .never
  := by
  induction h with
  | always => simp [rename]
  | never => apply absurd rfl hne
  | column c => simp [rename]
  | constant s => simp [rename]
  | concat h hlength hform _ =>
    rw [← form_eq_never.ne, (Normal.concat h hlength hform).form_rename_of_looseColumns hf]
    simp [form]
  | @and es _ _ _ hform ih =>
    rw [rename_and_eq]
    intro hnever
    have hflat : Junction.and.Flat (es.map (rename f)) :=
      Junction.flat_of_normal .and (List.forall_mem_map.2 fun e _ => (built_rename f e).normal)
    have hmem := Junction.absorbing_mem_of_all .and hflat hnever
    obtain ⟨e, he, heq⟩ := List.mem_map.1 hmem
    have hoperand := (Junction.isOperand_iff .and).1 (hform e he)
    apply ih e he hoperand.2.1 (hf.mono (pivots_subset_pivotsOf he)) heq
  | @or es _ hlength _ hform ih =>
    rw [rename_or_eq]
    intro hnever
    obtain ⟨e, he⟩ := List.exists_mem_of_length_pos (Nat.lt_of_lt_of_le Nat.zero_lt_two hlength)
    have heq := Junction.eq_neutral_of_all .or
      (List.forall_mem_map.2 fun e _ => (built_rename f e).normal) hnever (List.mem_map_of_mem he)
    have hoperand := (Junction.isOperand_iff .or).1 (hform e he)
    apply ih e he hoperand.1 (hf.mono (pivots_subset_pivotsOf he)) heq
  | not h hform _ =>
    rw [rename, notOf_of_isNegatable]
    · simp
    · rw [← hform, isNegatable, isNegatable, h.form_rename hf]
  | equal ha hb _ _ hform _ _ =>
    rw [rename]
    apply equalOf_ne_never
    rw [← hform, areConstants, areConstants,
      ha.form_rename_of_looseColumns (hf.mono (List.subset_append_left _ _)),
      hb.form_rename_of_looseColumns (hf.mono (List.subset_append_right _ _))]
  | isNotNull _ _ => simp [rename]

end Expr

namespace Relation

open Expr

variable {r s t : Relation}

/-! ### What the operations build -/

/-- What the operations build from conditions that are built by the simplifying constructors, where
tables are renamed only as it is allowed. -/
inductive Obtained (allowed : Relation → Aliases → Prop) : Relation → Prop
  | ofDatabase (name : String) : Obtained allowed (ofDatabase name)
  | trivial : Obtained allowed trivial
  | empty : Obtained allowed empty
  | asUnique {r : Relation} (h : Obtained allowed r) : Obtained allowed r.asUnique
  | withAliases {r : Relation} (h : Obtained allowed r) (aliases : Aliases) :
    Obtained allowed (r.withAliases aliases)
  | withJoins {r : Relation} (h : Obtained allowed r) (joins : List Join) :
    Obtained allowed (r.withJoins joins)
  | withOrder {r : Relation} (h : Obtained allowed r) (c : Column) (d : Direction) :
    Obtained allowed (r.withOrder c d)
  | withLimit {r : Relation} (h : Obtained allowed r) (n : Nat) : Obtained allowed (r.withLimit n)
  | withLimitInverse {r : Relation} (h : Obtained allowed r) (n : Nat) :
    Obtained allowed (r.withLimitInverse n)
  | select {r : Relation} (h : Obtained allowed r) {condition : Expr} (hc : condition.Built) :
    Obtained allowed (r.select condition)
  | project {r : Relation} (h : Obtained allowed r) (columns : List Column) :
    Obtained allowed (r.project columns)
  | renameTables {r s : Relation} (h : Obtained allowed r) {names : Aliases}
      (hallowed : allowed r names) (hs : r.renameTables names = .ok s) : Obtained allowed s
  | joinAll {rs : List Relation} {s : Relation} (h : ∀ r ∈ rs, Obtained allowed r)
      (hs : joinAll rs = .ok s) : Obtained allowed s

/-- The new names tell apart the columns of the condition that stand under a negation. -/
def KeepsApart (r : Relation) (names : Aliases) : Prop :=
  TellsApart names.nameColumn r.condition.pivots

/-- The condition is built by the simplifying constructors, and only that of the empty relation is
false. -/
structure Decided (r : Relation) : Prop where
  built : r.condition.Built
  eq_empty : r.condition = .never → r = empty

namespace Decided

theorem empty :
  Decided empty
  := ⟨.never, fun _ => rfl⟩

theorem of_ne (hbuilt : r.condition.Built) (hne : r.condition ≠ .never) :
  Decided r
  := ⟨hbuilt, fun h => absurd h hne⟩

/-- An operation that keeps the condition, and is done only on relations that are not empty. -/
theorem unlessEmpty (h : Decided r) (ht : Decided t) (hs : s.condition = r.condition) :
  Decided (if r.isEmpty then t else s)
  := by
  split
  · apply ht
  · rename_i he
    rw [isEmpty_iff, ← hs] at he
    apply of_ne _ he
    rw [hs]
    apply h.built

theorem asUnique (h : Decided r) :
  Decided r.asUnique
  := by
  use h.built
  intro hnever
  rw [h.eq_empty hnever]
  rfl

theorem select (h : Decided r) {condition : Expr} (hc : condition.Built) :
  Decided (r.select condition)
  := by
  rw [Relation.select]
  split
  · apply h
  · simp only
    split
    · apply empty
    · rename_i hne
      apply of_ne _ hne
      apply Built.andAll
      simp [h.built, hc]

theorem renameTables (h : Decided r) {names : Aliases} (hnames : r.KeepsApart names)
    (hs : r.renameTables names = .ok s) :
  Decided s
  := by
  cases he : r.isEmpty with
  | true =>
    rw [Relation.renameTables, if_pos he] at hs
    cases hs
    apply empty
  | false =>
    obtain ⟨aliases, -, rfl⟩ := (renameTables_eq_ok he).1 hs
    apply of_ne (built_rename _ _)
    apply h.built.normal.rename_ne_never (isEmpty_eq_false_iff.1 he) hnames

theorem built_joinFrom {joined : Relation} {rs : List Relation} (hjoined : joined.condition.Built)
    (h : ∀ r ∈ rs, Decided r) (hs : joined.joinFrom rs = .ok s) :
  s.condition.Built
  := by
  induction rs generalizing joined with
  | nil =>
    rw [joinFrom] at hs
    cases hs
    split
    · apply Built.never
    · apply hjoined
  | cons r rs ih =>
    rw [List.forall_mem_cons] at h
    rw [joinFrom] at hs
    split at hs
    · cases hs
      apply Built.never
    · split at hs
      · rename_i joined' hjoined'
        apply ih _ h.2 hs
        obtain ⟨database, aliases, -, -, rfl⟩ := joinTwo_eq_ok hjoined'
        apply Built.andAll
        simp [hjoined, h.1.built]
      · cases hs

theorem joinAll {rs : List Relation} (h : ∀ r ∈ rs, Decided r) (hs : joinAll rs = .ok s) :
  Decided s
  := by
  use built_joinFrom .always h hs
  intro hnever
  apply eq_empty_of_joinFrom (isEmpty_iff.2 hnever) hs

end Decided

/-- Every operation keeps a relation decided. -/
theorem Obtained.decided (h : Obtained KeepsApart r) :
  Decided r
  := by
  induction h with
  | ofDatabase name => apply Decided.of_ne .always (by rintro ⟨⟩)
  | trivial => apply Decided.of_ne .always (by rintro ⟨⟩)
  | empty => apply Decided.empty
  | asUnique _ ih => apply ih.asUnique
  | withAliases _ _ ih => exact ih.unlessEmpty ih rfl
  | withJoins _ _ ih => exact ih.unlessEmpty ih rfl
  | withOrder _ _ _ ih => exact ih.unlessEmpty ih rfl
  | withLimit _ _ ih => exact ih.unlessEmpty ih rfl
  | withLimitInverse _ _ ih => exact ih.unlessEmpty ih rfl
  | select _ hc ih => apply ih.select hc
  | project _ _ ih => exact ih.unlessEmpty .empty rfl
  | renameTables _ hnames hs ih => apply ih.renameTables hnames hs
  | joinAll _ hs ih => apply Decided.joinAll ih hs

/-- A relation with a false condition is the empty one if no renaming of its tables gave one name to
two columns under a negation. -/
theorem eq_empty_of_never (h : Obtained KeepsApart r) (hnever : r.condition = .never) :
  r = empty
  := h.decided.eq_empty hnever

/-! ### People and their bosses -/

/-- The number of a person, in one of two tables. -/
def number (table : String) : Column := ⟨⟨none, table⟩, "id"⟩

/-- Somebody who is not the boss. -/
def subordinates : Relation :=
  (ofDatabase "db").select (notOf (columnsEqual (number "boss") (number "people")))

/-- The bosses are read under another name. -/
def bossAs (name : String) : Aliases :=
  ((Aliases.ofList [⟨⟨none, "boss"⟩, ⟨none, name⟩⟩]).toOption).getD .empty

theorem built_subordinates :
  (notOf (columnsEqual (number "boss") (number "people"))).Built
  := .notOf (.equalOf (.column _) (.column _))

/-- Two different constants are never equal, which leaves the empty relation. -/
theorem eq_empty_of_never_subordinates :
  ∃ s, subordinates.renameTables (bossAs "chief") = .ok s
    ∧ s.condition = notOf (columnsEqual (number "chief") (number "people"))
    ∧ Obtained KeepsApart (s.select (equalOf (.constant "a") (.constant "b")))
    ∧ (s.select (equalOf (.constant "a") (.constant "b"))).condition = .never
    ∧ s.select (equalOf (.constant "a") (.constant "b")) = empty
  := by
  have hapart : subordinates.KeepsApart (bossAs "chief") := by
    have hpivots : subordinates.condition.pivots = [number "boss", number "people"] := by
      decide
    have hne : (bossAs "chief").nameColumn (number "boss")
        ≠ (bossAs "chief").nameColumn (number "people") := by
      decide
    rw [KeepsApart, TellsApart, hpivots]
    simp [Set.InjOn, hne, hne.symm]
  have hs : subordinates.renameTables (bossAs "chief")
      = .ok ((subordinates.renameTables (bossAs "chief")).toOption.getD empty) := by
    apply eq_ok_of_toOption
    decide
  have hobtained : Obtained KeepsApart subordinates :=
    .select (.ofDatabase "db") built_subordinates
  have hselected := (hobtained.renameTables hapart hs).select
    (.equalOf (.constant "a") (.constant "b"))
  refine ⟨_, hs, by decide, hselected, by decide, ?_⟩
  apply eq_empty_of_never hselected
  decide

/-- Where the bosses are read under the name of the people, nobody is left: the condition of the
relation turns false, but it is not the empty one. -/
theorem never_by_renameTables :
  ∃ s, Obtained (fun _ _ => True) s ∧ subordinates.renameTables (bossAs "people") = .ok s
    ∧ s.condition = .never ∧ s ≠ empty
  := by
  have hs : subordinates.renameTables (bossAs "people")
      = .ok ((subordinates.renameTables (bossAs "people")).toOption.getD empty) := by
    apply eq_ok_of_toOption
    decide
  refine ⟨_, ?_, hs, by decide, by decide⟩
  apply Obtained.renameTables (.select (.ofDatabase "db") built_subordinates) True.intro hs

end Relation

end RelGraph.Sql
