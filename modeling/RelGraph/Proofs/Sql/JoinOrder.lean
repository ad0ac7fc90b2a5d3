import RelGraph.Proofs.Sql.AliasIndexes
import RelGraph.Proofs.Sql.JoinAll
import RelGraph.Proofs.Sql.Simplified

/-!
# The order of the relations in a join

Relations are joined one after the other.  What is collected on the way is, field by field, a union,
a conjunction or a minimum over the relations that were joined already; so it does not depend on the
sequence in which they came.  Only the order of the rows is that of the first relation which has
one, and a relation without rows ends the join with the empty relation
(`Relation.joinAll_unordered_eq`).
-/

namespace RelGraph.Sql

open Expr Spelled

/-! ### Limits -/

/-- The limit admits at most the given number of rows. -/
def AtMost (limit : Option Nat) (n : Nat) : Prop := ∃ l, limit = some l ∧ l ≤ n

theorem atMost_minLimit {a b : Option Nat} {n : Nat} :
  AtMost (minLimit a b) n ↔ AtMost a n ∨ AtMost b n
  := by
  cases a <;> cases b <;> simp [AtMost, minLimit]

/-- A limit is determined by the numbers of rows that it keeps to. -/
theorem eq_of_atMost {a b : Option Nat} (h : ∀ n, AtMost a n ↔ AtMost b n) :
  a = b
  := by
  obtain _ | l := a <;> obtain _ | k := b
  · rfl
  · simpa [AtMost] using h k
  · simpa [AtMost] using h l
  · have hl := h l
    have hk := h k
    simp only [AtMost, Option.some.injEq, exists_eq_left', le_refl, true_iff, iff_true] at hl hk
    rw [le_antisymm hk hl]

namespace Relation

variable {rs rs₀ rs' : List Relation} {j j' joined joined' r : Relation}

/-! ### What a join collects -/

/-- The relation has what some relations have together. -/
structure Unites (rs : List Relation) (joined : Relation) : Prop where
  database : ∀ name, joined.database = some name ↔ ∃ r ∈ rs, r.database = some name
  indexed : joined.aliases.Indexed
  tables : ∀ n t, joined.aliases.tables.get? n = some t
    ↔ ∃ r ∈ rs, r.aliases.tables.get? n = some t
  condition : joined.condition = andAll (rs.map condition)
  joins : joined.joins = canonical (rs.flatMap joins)
  projections : joined.projections = canonical (rs.flatMap projections)
  unique : joined.unique = true ↔ ∀ r ∈ rs, r.unique = true
  order : joined.order = rs.findSome? order
  limit : ∀ n, AtMost joined.limit n ↔ ∃ r ∈ rs, AtMost r.limit n
  limitInverse : ∀ n, AtMost joined.limitInverse n ↔ ∃ r ∈ rs, AtMost r.limitInverse n

theorem unites_trivial :
  Unites [] trivial
  := by
  constructor
  · simp [trivial]
  · apply Aliases.indexed_empty
  · have hnone : ∀ n, trivial.aliases.tables.get? n = none := SortedMap.get?_empty
    simp [hnone]
  · rfl
  · rfl
  · rfl
  · simp [trivial]
  · rfl
  · simp [trivial, AtMost]
  · simp [trivial, AtMost]

theorem flat_conditions (h : ∀ r ∈ rs, r.condition.Simplified) :
  Junction.and.Flat (rs.map condition)
  := Junction.flat_of_simplified .and (List.forall_mem_map.2 h)

/-- One more relation is joined. -/
theorem Unites.joinTwo (h : Unites rs joined) (hsimplified : ∀ r ∈ rs, r.condition.Simplified)
    (hjoin : joined.joinTwo r = .ok joined') :
  Unites (rs ++ [r]) joined'
  := by
  obtain ⟨database, aliases, hdatabase, hmerge, rfl⟩ := joinTwo_eq_ok hjoin
  constructor
  · intro name
    rw [exists_mem_append_singleton, ← h.database, joinDatabase_eq_some_iff hdatabase]
  · apply h.indexed.insertAll hmerge
  · intro n t
    rw [exists_mem_append_singleton, ← h.tables, Aliases.get?_of_merge hmerge]
  · rw [h.condition, List.map_append]
    apply Junction.all_cons_all .and (flat_conditions hsimplified)
  · rw [h.joins, List.flatMap_append]
    apply canonical_congr
    simp
  · rw [h.projections, List.flatMap_append]
    apply canonical_congr
    simp
  · rw [Bool.and_eq_true, h.unique, List.forall_mem_append, List.forall_mem_singleton]
  · rw [h.order, List.findSome?_append]
    simp
  · intro n
    rw [exists_mem_append_singleton, ← h.limit, atMost_minLimit]
  · intro n
    rw [exists_mem_append_singleton, ← h.limitInverse, atMost_minLimit]

/-- The conjunction of simplified conditions is false only if one of them is. -/
theorem Unites.isEmpty_eq_false (h : Unites rs joined)
    (hsimplified : ∀ r ∈ rs, r.condition.Simplified) (hrs : ∀ r ∈ rs, r.isEmpty = false) :
  joined.isEmpty = false
  := by
  rw [isEmpty_eq_false_iff, h.condition]
  intro hnever
  have hmem := Junction.absorbing_mem_of_all .and (flat_conditions hsimplified) hnever
  obtain ⟨r, hr, hcondition⟩ := List.mem_map.1 hmem
  apply isEmpty_eq_false_iff.1 (hrs r hr) hcondition

/-- A join goes through all the relations, unless one of them has no rows. -/
theorem joinFrom_unites (hjoined : Unites rs₀ joined)
    (hsimplified : ∀ r ∈ rs₀ ++ rs, r.condition.Simplified) (hrs₀ : ∀ r ∈ rs₀, r.isEmpty = false)
    (h : joined.joinFrom rs = .ok j) :
  ((∃ r ∈ rs, r.isEmpty = true) ∧ j = empty)
    ∨ ((∀ r ∈ rs, r.isEmpty = false) ∧ Unites (rs₀ ++ rs) j)
  := by
  induction rs generalizing rs₀ joined with
  | nil =>
    rw [List.append_nil] at hsimplified
    rw [joinFrom, hjoined.isEmpty_eq_false hsimplified hrs₀, if_neg (by simp)] at h
    cases h
    right
    rw [List.append_nil]
    use by simp
  | cons r rs ih =>
    rw [joinFrom] at h
    split at h
    · rename_i hempty
      cases h
      left
      use ⟨r, by simp, hempty⟩
    · rename_i hempty
      rw [Bool.not_eq_true] at hempty
      split at h
      · rename_i joined' hjoin
        have hstep : Unites (rs₀ ++ [r]) joined' :=
          hjoined.joinTwo (List.forall_mem_append.1 hsimplified).1 hjoin
        have hrs₀' : ∀ s ∈ rs₀ ++ [r], s.isEmpty = false := by
          rw [List.forall_mem_append, List.forall_mem_singleton]
          use hrs₀
        rw [List.append_cons] at hsimplified ⊢
        rw [List.forall_mem_cons]
        obtain ⟨⟨s, hs, hsempty⟩, rfl⟩ | ⟨hrs, hunites⟩ := ih hstep hsimplified hrs₀' h
        · left
          use ⟨s, List.mem_cons_of_mem r hs, hsempty⟩
        · right
          use ⟨hempty, hrs⟩
      · cases h

theorem joinAll_unites (hsimplified : ∀ r ∈ rs, r.condition.Simplified)
    (h : joinAll rs = .ok j) :
  ((∃ r ∈ rs, r.isEmpty = true) ∧ j = empty) ∨ ((∀ r ∈ rs, r.isEmpty = false) ∧ Unites rs j)
  := joinFrom_unites unites_trivial hsimplified (by simp) h

/-! ### Joins of the same relations -/

/-- What is collected depends on the relations only, up to the order of the rows. -/
theorem Unites.unordered_eq (h : Unites rs j) (h' : Unites rs' j')
    (hmem : ∀ r, r ∈ rs ↔ r ∈ rs') :
  j.unordered = j'.unordered
  := by
  have hdatabase : j.database = j'.database := by
    ext name
    rw [h.database, h'.database]
    simp only [hmem]
  have haliases : j.aliases = j'.aliases := by
    apply h.indexed.ext h'.indexed
    intro n t
    rw [h.tables, h'.tables]
    simp only [hmem]
  have hcondition : j.condition = j'.condition := by
    rw [h.condition, h'.condition]
    apply Junction.all_congr_mem .and
    simp only [List.mem_map, hmem, implies_true]
  have hjoins : j.joins = j'.joins := by
    rw [h.joins, h'.joins]
    apply canonical_congr
    simp only [List.mem_flatMap, hmem, implies_true]
  have hprojections : j.projections = j'.projections := by
    rw [h.projections, h'.projections]
    apply canonical_congr
    simp only [List.mem_flatMap, hmem, implies_true]
  have hunique : j.unique = j'.unique := by
    rw [Bool.eq_iff_iff, h.unique, h'.unique]
    simp only [hmem]
  have hlimit : j.limit = j'.limit := by
    apply eq_of_atMost
    simp only [h.limit, h'.limit, hmem, implies_true]
  have hlimitInverse : j.limitInverse = j'.limitInverse := by
    apply eq_of_atMost
    simp only [h.limitInverse, h'.limitInverse, hmem, implies_true]
  simp only [unordered, hdatabase, haliases, hcondition, hjoins, hprojections, hunique, hlimit,
    hlimitInverse]

/-- The joins of some relations in two sequences agree in all but the order of the rows.  If none of
the relations is empty, this is in either join the order of the first one that has an order; if one
of them is empty, so are both joins, and they have no order. -/
theorem joinAll_unordered_eq (hperm : rs.Perm rs')
    (hsimplified : ∀ r ∈ rs, r.condition.Simplified) (h : joinAll rs = .ok j)
    (h' : joinAll rs' = .ok j') :
  j.unordered = j'.unordered
    ∧ ((∀ r ∈ rs, r.isEmpty = false)
      → j.order = rs.findSome? order ∧ j'.order = rs'.findSome? order)
    ∧ ((∃ r ∈ rs, r.isEmpty = true) → j = empty ∧ j' = empty)
  := by
  have hsimplified' : ∀ r ∈ rs', r.condition.Simplified := by
    intro r hr
    apply hsimplified r (hperm.mem_iff.2 hr)
  obtain ⟨⟨r, hr, hempty⟩, hj⟩ | ⟨hrs, hunites⟩ := joinAll_unites hsimplified h
  · have hj' : j' = empty := by
      obtain ⟨-, hj'⟩ | ⟨hrs', -⟩ := joinAll_unites hsimplified' h'
      · apply hj'
      · simp [hrs' r (hperm.mem_iff.1 hr)] at hempty
    refine ⟨by rw [hj, hj'], ?_, fun _ => ⟨hj, hj'⟩⟩
    intro hrs
    simp [hrs r hr] at hempty
  · have hnone : ¬ ∃ r ∈ rs, r.isEmpty = true := by
      rintro ⟨r, hr, hempty⟩
      simp [hrs r hr] at hempty
    obtain ⟨⟨r, hr, hempty⟩, -⟩ | ⟨-, hunites'⟩ := joinAll_unites hsimplified' h'
    · exact absurd ⟨r, hperm.mem_iff.2 hr, hempty⟩ hnone
    · refine ⟨?_, fun _ => ⟨hunites.order, hunites'.order⟩, fun hex => absurd hex hnone⟩
      apply hunites.unordered_eq hunites'
      intro r
      apply hperm.mem_iff

/-! ### People in two orders -/

/-- A column of the people. -/
def peopleColumn (name : String) : Column := ⟨⟨none, "people"⟩, name⟩

/-- People by their numbers. -/
def numberedPeople : Relation :=
  ((ofDatabase "db").project [peopleColumn "id"]).withOrder (peopleColumn "id") .ascending

/-- At most five people, whose names are known, by their names. -/
def knownPeople : Relation :=
  ((((ofDatabase "db").select (.isNotNull (.column (peopleColumn "name")))).project
    [peopleColumn "name"]).withOrder (peopleColumn "name") .descending).withLimit 5

theorem joinAll_unordered_eq_numberedPeople :
  ∃ j j', joinAll [numberedPeople, knownPeople] = .ok j
    ∧ joinAll [knownPeople, numberedPeople] = .ok j'
    ∧ j.unordered = j'.unordered
    ∧ j.order = some (peopleColumn "id", .ascending)
    ∧ j'.order = some (peopleColumn "name", .descending)
  := by
  have hsimplified : ∀ r ∈ [numberedPeople, knownPeople], r.condition.Simplified := by
    rw [List.forall_mem_cons, List.forall_mem_singleton]
    use .always
    apply Simplified.isNotNull (.column _)
  have hj : joinAll [numberedPeople, knownPeople]
      = .ok ((joinAll [numberedPeople, knownPeople]).toOption.getD empty) := by
    apply eq_ok_of_toOption
    decide
  have hj' : joinAll [knownPeople, numberedPeople]
      = .ok ((joinAll [knownPeople, numberedPeople]).toOption.getD empty) := by
    apply eq_ok_of_toOption
    decide
  have hperm : [numberedPeople, knownPeople].Perm [knownPeople, numberedPeople] := .swap _ _ []
  obtain ⟨hunordered, horder, -⟩ := joinAll_unordered_eq hperm hsimplified hj hj'
  obtain ⟨hfirst, hsecond⟩ := horder (by decide)
  exact ⟨_, _, hj, hj', hunordered, hfirst, hsecond⟩

/-- The people are joined with the empty relation, and have lost their order. -/
theorem order_lost_by_joinAll :
  (∀ r ∈ [numberedPeople, empty], r.condition.Simplified)
    ∧ [numberedPeople, empty].findSome? order = some (peopleColumn "id", .ascending)
    ∧ joinAll [numberedPeople, empty] = .ok empty ∧ joinAll [empty, numberedPeople] = .ok empty
    ∧ empty.order = none
  := by
  refine ⟨?_, rfl, ?_, ?_, rfl⟩
  · rw [List.forall_mem_cons, List.forall_mem_singleton]
    exact ⟨.always, .never⟩
  · apply eq_ok_of_toOption
    decide
  · apply eq_ok_of_toOption
    decide

end Relation

end RelGraph.Sql
