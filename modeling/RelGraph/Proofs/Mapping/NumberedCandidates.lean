import Mathlib.Data.List.Pairwise
import RelGraph.Mapping.Bgp
import RelGraph.Proofs.Mapping.TripleMap
import RelGraph.Proofs.Sql.SeparateCopies

/-!
# Numbered candidates

If there are several patterns, their candidates read copies of the tables.  The candidates of all
the patterns are numbered one after the other, and each of them reads the copies with its number.
So those of different patterns have no table in common, and no alias stands for different tables in
two of them.
-/

namespace RelGraph.Mapping

open Rdf Sql

/-! ### Numbers -/

/-- Of two members of a list that is numbered on, the second one has the larger number. -/
theorem pairwise_of_numbered {α : Type} {R : Nat → α → Prop} {n : Nat} {as : List α}
    (h : List.Forall₂ R (List.range' n as.length) as) :
  as.Pairwise fun a b => ∃ i j, i < j ∧ R i a ∧ R j b
  := by
  rw [List.forall₂_iff_get] at h
  rw [List.pairwise_iff_get]
  intro i j hij
  have hnumber : ∀ k : Fin as.length, R (n + k) (as.get k) := by
    intro k
    simpa using h.2 k (by simp) k.isLt
  use n + i, n + j, by omega
  exact ⟨hnumber i, hnumber j⟩

section

variable {copies : Bool} {maps : List TripleMap} {low : Nat} {p : TriplePattern}

theorem allCandidates_cons {ps : List TriplePattern}
    {result : Option (List (TriplePattern × List TripleMap))}
    (h : allCandidates copies maps low (p :: ps) = .ok result) :
  ∃ found high, candidates copies p low maps = .ok (found, high)
    ∧ ((found = [] ∧ result = none)
      ∨ ∃ rest, allCandidates copies maps high ps = .ok rest
        ∧ result = rest.map ((p, found) :: ·))
  := by
  obtain ⟨⟨found, high⟩, hfound, h⟩ := bind_eq_ok.1 h
  use found, high, hfound
  simp only at h
  split at h
  · rename_i hempty
    left
    use List.isEmpty_iff.1 hempty, (pure_eq_ok.1 h).symm
  · right
    obtain ⟨rest, hrest, h⟩ := bind_eq_ok.1 h
    use rest, hrest, (pure_eq_ok.1 h).symm

theorem map_fst_of_allCandidates {ps : List TriplePattern}
    {found : List (TriplePattern × List TripleMap)}
    (h : allCandidates copies maps low ps = .ok (some found)) :
  found.map (·.1) = ps
  := by
  induction ps generalizing low found with
  | nil =>
    cases h
    rfl
  | cons p ps ih =>
    obtain ⟨cs, high, -, ⟨-, hnone⟩ | ⟨rest, hrest, heq⟩⟩ := allCandidates_cons h
    · cases hnone
    · obtain ⟨tail, rfl, rfl⟩ := Option.map_eq_some_iff.1 heq.symm
      rw [List.map_cons, ih hrest]

end

/-- The triple map is the copy with the given number of one that is restricted to a pattern. -/
def IsCopy (maps : List TripleMap) (i : Nat) (c : TripleMap) : Prop :=
  ∃ m ∈ maps, ∃ p s, m.selectPattern? p = some s ∧ s.copy i = .ok c

section

variable {maps : List TripleMap} {n : Nat}

/-- The candidates of a pattern are numbered on. -/
theorem numbered_candidates {ms found : List TripleMap} {p : TriplePattern} {n' : Nat}
    (hms : ms ⊆ maps) (h : candidates true p n ms = .ok (found, n')) :
  n' = n + found.length
    ∧ List.Forall₂ (IsCopy maps) (List.range' (n + 1) found.length) found
  := by
  induction ms generalizing n found with
  | nil =>
    cases h
    exact ⟨rfl, .nil⟩
  | cons m ms ih =>
    obtain ⟨hm, hms⟩ := List.cons_subset.1 hms
    rw [candidates] at h
    split at h
    · apply ih hms h
    · rename_i s hs
      rw [if_pos rfl] at h
      split at h
      · cases h
      · rename_i c hc
        obtain ⟨⟨rest, n₁⟩, hrest, heq⟩ := bind_eq_ok.1 h
        cases heq
        obtain ⟨hnumber, hcopies⟩ := ih hms hrest
        constructor
        · rw [hnumber, List.length_cons]
          omega
        · rw [List.length_cons, List.range'_succ]
          exact .cons ⟨m, hm, p, s, hs, hc⟩ hcopies

/-- The candidates of the next pattern are numbered on from those of the pattern. -/
theorem numbered_allCandidates {ps : List TriplePattern}
    {found : List (TriplePattern × List TripleMap)}
    (h : allCandidates true maps n ps = .ok (some found)) :
  List.Forall₂ (IsCopy maps) (List.range' (n + 1) (found.flatMap (·.2)).length)
    (found.flatMap (·.2))
  := by
  induction ps generalizing n found with
  | nil =>
    cases h
    exact .nil
  | cons p ps ih =>
    obtain ⟨cs, n', hcs, ⟨-, hnone⟩ | ⟨rest, hrest, heq⟩⟩ := allCandidates_cons h
    · cases hnone
    · obtain ⟨tail, rfl, rfl⟩ := Option.map_eq_some_iff.1 heq.symm
      obtain ⟨rfl, hcopies⟩ := numbered_candidates (List.Subset.refl maps) hcs
      have htail := ih hrest
      rw [Nat.add_right_comm] at htail
      rw [List.flatMap_cons, List.length_append, ← List.range'_append_1]
      apply List.rel_append hcopies htail

end

/-! ### The names of a candidate -/

namespace IsCopy

variable {maps : List TripleMap} {i j : Nat} {c c' : TripleMap}

/-- The copied relation has the joins of a triple map, and it has rows. -/
theorem exists_relation (h : IsCopy maps i c) :
  ∃ m ∈ maps, ∃ (r : Relation) (names : Aliases), r.isEmpty = false ∧ r.joins = m.relation.joins
    ∧ r.copyNames i = .ok names ∧ r.renameTables names = .ok c.relation
  := by
  obtain ⟨m, hm, p, s, hs, hc⟩ := h
  rw [TripleMap.selectPattern?_eq] at hs
  split at hs
  · cases hs
  · rename_i he
    rw [Bool.not_eq_true] at he
    cases hs
    simp only [TripleMap.copy, bind_eq_ok, pure_eq_ok] at hc
    obtain ⟨names, hnames, relation, hrelation, rfl⟩ := hc
    have hjoins : (m.restricted p).relation.joins = m.relation.joins :=
      ((Relation.selects_select he).1.project he _).joins
    use m, hm, (m.restricted p).relation, names, TripleMap.isEmpty_restricted he, hjoins, hnames,
      hrelation

/-- The aliases of a candidate are copies with its number. -/
theorem exists_copy_of_get? (h : IsCopy maps i c) {x u : Table}
    (hx : c.relation.aliases.tables.get? x = some u) :
  ∃ t : Table, t.copy i = x
  := by
  obtain ⟨m, -, r, names, he, -, hnames, hrelation⟩ := h.exists_relation
  obtain ⟨t, -, ht⟩ := Relation.exists_copy_of_get? hnames he hrelation hx
  use t

/-- The tables of a candidate are copies with its number. -/
theorem exists_copy_of_mem_tables (h : IsCopy maps i c)
    (hjoins : ∀ m ∈ maps, ∀ j ∈ m.relation.joins, j.Uniform) {x : Table}
    (hx : x ∈ c.relation.tables) :
  ∃ t : Table, t.copy i = x
  := by
  obtain ⟨m, hm, r, names, he, hr, hnames, hrelation⟩ := h.exists_relation
  have hr : ∀ j ∈ r.joins, j.Uniform := by
    rw [hr]
    apply hjoins m hm
  obtain ⟨t, -, ht⟩ := Relation.exists_copy_of_mem_tables hnames he hrelation hr hx
  use t

theorem compatible (h : IsCopy maps i c) (h' : IsCopy maps j c') (hne : i ≠ j) :
  c.relation.Compatible c'.relation
  := by
  intro x t u ht hu
  obtain ⟨v, rfl⟩ := h.exists_copy_of_get? ht
  obtain ⟨w, hw⟩ := h'.exists_copy_of_get? hu
  apply absurd (Table.eq_of_copy_eq_copy hw.symm) hne

theorem apart (h : IsCopy maps i c) (h' : IsCopy maps j c') (hne : i ≠ j)
    (hjoins : ∀ m ∈ maps, ∀ j ∈ m.relation.joins, j.Uniform) :
  c.relation.Apart c'.relation
  := by
  intro x hx hx'
  obtain ⟨v, rfl⟩ := h.exists_copy_of_mem_tables hjoins hx
  obtain ⟨w, hw⟩ := h'.exists_copy_of_mem_tables hjoins hx'
  apply hne (Table.eq_of_copy_eq_copy hw.symm)

end IsCopy

/-! ### Separate candidates -/

section

variable {maps : List TripleMap} {patterns : List TriplePattern} {n : Nat}
  {found : List (TriplePattern × List TripleMap)}

/-- Candidates of different patterns have no table in common. -/
theorem pairwise_apart_of_allCandidates (h : allCandidates true maps n patterns = .ok (some found))
    (hjoins : ∀ m ∈ maps, ∀ j ∈ m.relation.joins, j.Uniform) :
  found.Pairwise fun e e' => ∀ c ∈ e.2, ∀ c' ∈ e'.2, c.relation.Apart c'.relation
  := by
  have hall : (found.flatMap (·.2)).Pairwise fun c c' => c.relation.Apart c'.relation := by
    apply (pairwise_of_numbered (numbered_allCandidates h)).imp
    rintro c c' ⟨i, j, hij, hc, hc'⟩
    apply hc.apart hc' (Nat.ne_of_lt hij) hjoins
  apply (List.pairwise_flatMap.1 hall).2

/-- No alias stands for different tables in two candidates. -/
theorem compatible_of_allCandidates (h : allCandidates true maps n patterns = .ok (some found))
    {e e' : TriplePattern × List TripleMap} (he : e ∈ found) (he' : e' ∈ found) {c c' : TripleMap}
    (hc : c ∈ e.2) (hc' : c' ∈ e'.2) :
  c.relation.Compatible c'.relation
  := by
  have hall : ((found.flatMap (·.2)).map TripleMap.relation).Pairwise Relation.Compatible := by
    rw [List.pairwise_map]
    apply (pairwise_of_numbered (numbered_allCandidates h)).imp
    rintro c c' ⟨i, j, hij, hc, hc'⟩
    apply hc.compatible hc' (Nat.ne_of_lt hij)
  have hmem : ∀ {e c}, e ∈ found → c ∈ e.2
      → c.relation ∈ (found.flatMap (·.2)).map TripleMap.relation := by
    intro e c he hc
    apply List.mem_map_of_mem (List.mem_flatMap.2 ⟨e, he, hc⟩)
  -- a candidate is compatible with itself, and any two of them come in one sequence or the other
  apply hall.forall_of_forall (fun r _ => r.compatible_self) (hmem he hc) (hmem he' hc')

end

end RelGraph.Mapping
