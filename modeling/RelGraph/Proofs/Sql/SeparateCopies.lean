import RelGraph.Proofs.Sql.AliasIndexes
import RelGraph.Proofs.Sql.Copies
import RelGraph.Proofs.Sql.JoinAll

/-!
# Copies with different numbers

Every table of a copy of a relation, and every name that is an alias in it, is the name of a copy
with the number of the copy.  Copies with different numbers thus have no table and no alias in
common.  Relations in which no alias stands for different tables are joined without an error about
aliases.
-/

namespace RelGraph.Sql

/-! ### Joins of two tables -/

/-- What is built from pairs of columns and by renaming tables. -/
inductive Join.Obtained : Join → Prop
  | ofPairs {pairs : List (Column × Column)} {j : Join} (h : ofPairs pairs = .ok j) : Obtained j
  | rename (names : Aliases) {j : Join} (h : Obtained j) : Obtained (j.rename names.nameColumn)

theorem Join.Obtained.uniform {j : Join} (h : j.Obtained) :
  j.Uniform
  := by
  induction h with
  | ofPairs h => apply (relates_of_ofPairs h).uniform
  | rename names _ ih => apply ih.rename_nameColumn names

namespace Relation

/-! ### Joining without an error about aliases -/

/-- No alias stands for different tables in the two relations. -/
def Compatible (r s : Relation) : Prop :=
  ∀ x t u, r.aliases.tables.get? x = some t → s.aliases.tables.get? x = some u → t = u

theorem compatible_self (r : Relation) :
  r.Compatible r
  := by
  intro x t u ht hu
  rw [ht, Option.some.injEq] at hu
  apply hu

theorem compatible_trivial (r : Relation) :
  trivial.Compatible r
  := by
  intro x t u ht
  have hnone : trivial.aliases.tables.get? x = none := SortedMap.get?_empty x
  rw [hnone] at ht
  cases ht

section

variable {r s joined : Relation} {rs : List Relation}

theorem Compatible.symm (h : r.Compatible s) :
  s.Compatible r
  := by
  intro x t u ht hu
  apply (h x u t hu ht).symm

instance : Std.Symm Compatible := ⟨fun _ _ => Compatible.symm⟩

theorem Compatible.joinTwo {s' : Relation} (hr : r.Compatible s') (hs : s.Compatible s')
    (h : r.joinTwo s = .ok joined) :
  joined.Compatible s'
  := by
  obtain ⟨database, aliases, -, hmerge, rfl⟩ := joinTwo_eq_ok h
  intro x t u ht hu
  obtain ht | ht := (Aliases.get?_of_merge hmerge).1 ht
  · apply hr x t u ht hu
  · apply hs x t u ht hu

theorem joinDatabase_ne_aliases (a b : Option String) (e : AliasError) :
  joinDatabase a b ≠ .error (.aliases e)
  := by
  unfold joinDatabase
  split
  · split <;> simp
  · simp
  · simp

theorem Compatible.joinTwo_ne_aliases (h : r.Compatible s) (e : AliasError) :
  r.joinTwo s ≠ .error (.aliases e)
  := by
  obtain ⟨aliases, hmerge⟩ := Aliases.exists_merge_iff.2 h
  unfold Relation.joinTwo
  split
  · rename_i e' he'
    intro heq
    cases heq
    apply joinDatabase_ne_aliases _ _ e he'
  · rw [hmerge]
    simp

/-- Compatible relations are joined one after the other without an error about aliases. -/
theorem joinFrom_ne_aliases (hrs : rs.Pairwise Compatible)
    (hjoined : ∀ r ∈ rs, joined.Compatible r) (e : AliasError) :
  joined.joinFrom rs ≠ .error (.aliases e)
  := by
  induction rs generalizing joined with
  | nil => simp [joinFrom]
  | cons r rs ih =>
    rw [List.pairwise_cons] at hrs
    rw [List.forall_mem_cons] at hjoined
    rw [joinFrom]
    split
    · simp
    · split
      · rename_i joined' hjoin
        apply ih hrs.2
        intro s hs
        apply (hjoined.2 s hs).joinTwo (hrs.1 s hs) hjoin
      · rename_i e' hjoin
        intro heq
        cases heq
        apply hjoined.1.joinTwo_ne_aliases e hjoin

theorem joinAll_ne_aliases (hrs : rs.Pairwise Compatible) (e : AliasError) :
  joinAll rs ≠ .error (.aliases e)
  := joinFrom_ne_aliases hrs (fun r _ => compatible_trivial r) e

end

end Relation

end RelGraph.Sql
