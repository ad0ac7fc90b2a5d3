import RelGraph.Proofs.Except
import RelGraph.Proofs.Order.Canonical
import RelGraph.Sql.Join

/-!
# Canonical joins

A join of some pairs turns all of them as the first one, and a renamed join turns each of its pairs by
itself; both put the smaller table on the left.  A join thus depends only on which pairs there are, up
to an exchange of their sides, and after a renaming of tables it is the join of the renamed pairs, also
if their order is reversed (`Join.ofPairs_canonical`).
-/

namespace RelGraph.Sql.Join

open Spelled

variable {ps qs : List (Column × Column)} {p : Column × Column} {j : Join} {f : Column → Column}

/-! ### Turning pairs -/

theorem orient_eq (p : Column × Column) :
  orient p = p ∨ orient p = (p.2, p.1)
  := by
  unfold orient
  split
  · left
    rfl
  · right
    rfl

/-- If the tables differ, it does not matter on which sides they were. -/
theorem orient_flip (h : p.1.table ≠ p.2.table) :
  orient (flip p) = orient p
  := by
  unfold orient flip
  split
  · rename_i hge
    rw [if_neg]
    intro hle
    apply h (eq_of_le_of_le hle hge)
  · rename_i hge
    rw [if_pos (le_of_not_le hge)]

theorem ordering_orient (h : p.1.table ≠ p.2.table) :
  ordering (orient p).1.table (orient p).2.table = .lt
  := by
  unfold orient flip
  split
  · rename_i hle
    apply ordering_lt_of_le hle h
  · rename_i hle
    apply ordering_lt_of_le (le_of_not_le hle) (Ne.symm h)

theorem orient_of_lt (h : ordering p.1.table p.2.table = .lt) :
  orient p = p
  := by
  rw [orient, le, h]
  rfl

/-- The pair with its columns renamed. -/
def renamePair (f : Column → Column) (p : Column × Column) : Column × Column := (f p.1, f p.2)

/-- A pair that is turned after the renaming may be turned before it as well. -/
theorem orient_renamePair_orient (h : (f p.1).table ≠ (f p.2).table) :
  orient (renamePair f (orient p)) = orient (renamePair f p)
  := by
  obtain heq | heq := orient_eq p
  · rw [heq]
  · rw [heq]
    apply orient_flip (p := renamePair f p) h

theorem mem_pairs_rename {q : Column × Column} :
  q ∈ (j.rename f).pairs ↔ ∃ p ∈ j.pairs, orient (f p.1, f p.2) = q
  := by
  rw [rename, mem_canonical, List.mem_map]

/-! ### Pairs between two tables -/

/-- All the pairs relate the same two tables. -/
def Related (ps : List (Column × Column)) : Prop :=
  ∃ left right, left ≠ right ∧ ∀ p ∈ ps, p.1.table = left ∧ p.2.table = right

theorem Related.table_ne (h : Related ps) (hp : p ∈ ps) :
  p.1.table ≠ p.2.table
  := by
  obtain ⟨left, right, hne, htables⟩ := h
  rw [(htables p hp).1, (htables p hp).2]
  apply hne

theorem Related.subset (h : Related ps) (hqs : ∀ p ∈ qs, p ∈ ps) :
  Related qs
  := by
  obtain ⟨left, right, hne, htables⟩ := h
  use left, right, hne
  intro p hp
  apply htables p (hqs p hp)

theorem Related.map_flip (h : Related ps) :
  Related (ps.map flip)
  := by
  obtain ⟨left, right, hne, htables⟩ := h
  use right, left, Ne.symm hne
  rw [List.forall_mem_map]
  intro p hp
  apply (htables p hp).symm

/-- The pairs are all turned or none of them is. -/
theorem Related.map_orient (h : Related ps) :
  Related (ps.map orient)
  := by
  obtain ⟨left, right, hne, htables⟩ := h
  by_cases hle : le left right = true
  · use left, right, hne
    rw [List.forall_mem_map]
    intro p hp
    rw [orient, (htables p hp).1, (htables p hp).2, if_pos hle]
    apply htables p hp
  · use right, left, Ne.symm hne
    rw [List.forall_mem_map]
    intro p hp
    rw [orient, (htables p hp).1, (htables p hp).2, if_neg hle]
    apply (htables p hp).symm

theorem Related.map_renamePair (h : Related ps) {g : Table → Table}
    (hf : ∀ c, (f c).table = g c.table) (hg : ∀ p ∈ ps, g p.1.table ≠ g p.2.table) :
  Related (ps.map (renamePair f))
  := by
  cases ps with
  | nil => apply h
  | cons p ps =>
    obtain ⟨left, right, -, htables⟩ := h
    use g left, g right
    constructor
    · rw [← (htables p List.mem_cons_self).1, ← (htables p List.mem_cons_self).2]
      apply hg p List.mem_cons_self
    · rw [List.forall_mem_map]
      intro q hq
      rw [renamePair, hf, hf, (htables q hq).1, (htables q hq).2]
      use rfl

theorem related_cons_iff :
  Related (p :: ps)
    ↔ p.1.table ≠ p.2.table ∧ ∀ q ∈ ps, q.1.table = p.1.table ∧ q.2.table = p.2.table
  := by
  constructor
  · intro h
    use h.table_ne List.mem_cons_self
    obtain ⟨left, right, -, htables⟩ := h
    rw [List.forall_mem_cons] at htables
    rw [htables.1.1, htables.1.2]
    apply htables.2
  · rintro ⟨hne, htables⟩
    use p.1.table, p.2.table, hne
    rw [List.forall_mem_cons]
    use ⟨rfl, rfl⟩

/-- Turning the pairs as the first one turns each of them as its own tables require. -/
theorem Related.map_as_first (h : Related (p :: ps)) :
  (p :: ps).map (if le p.1.table p.2.table then id else flip) = (p :: ps).map orient
  := by
  obtain ⟨-, htables⟩ := related_cons_iff.1 h
  have hall : ∀ q ∈ p :: ps, q.1.table = p.1.table ∧ q.2.table = p.2.table := by
    rw [List.forall_mem_cons]
    use ⟨rfl, rfl⟩
  apply List.map_congr_left
  intro q hq
  rw [orient, (hall q hq).1, (hall q hq).2]
  split <;> rfl

/-! ### The join of some pairs -/

/-- Pairs make a join if they relate two tables; it has the pairs with the smaller table on the
left. -/
theorem ofPairs_eq_ok_iff :
  ofPairs ps = .ok j ↔ ps ≠ [] ∧ Related ps ∧ j.pairs = canonical (ps.map orient)
  := by
  cases ps with
  | nil =>
    constructor
    · rintro ⟨⟩
    · rintro ⟨hnil, -⟩
      exact absurd rfl hnil
  | cons p ps =>
    have hrelated : Related (p :: ps) ↔ p.1.table ≠ p.2.table
        ∧ (ps.all fun q => q.1.table = p.1.table && q.2.table = p.2.table) = true := by
      simp [related_cons_iff]
    simp only [ofPairs]
    split
    · rename_i heq
      constructor
      · rintro ⟨⟩
      · rintro ⟨-, h, -⟩
        exact absurd heq (hrelated.1 h).1
    · rename_i hne
      split
      · rename_i hall
        have h := hrelated.2 ⟨hne, hall⟩
        obtain ⟨pairs, hnil⟩ := j
        rw [Except.ok.injEq, mk.injEq, h.map_as_first, eq_comm]
        simp [h]
      · rename_i hall
        constructor
        · rintro ⟨⟩
        · rintro ⟨-, h, -⟩
          exact absurd (hrelated.1 h).2 hall

theorem related_pairs_of_ofPairs (h : ofPairs ps = .ok j) :
  Related j.pairs
  := by
  obtain ⟨-, hrelated, hpairs⟩ := ofPairs_eq_ok_iff.1 h
  apply hrelated.map_orient.subset
  intro p hp
  rwa [hpairs, mem_canonical] at hp

theorem increasing_pairs_of_ofPairs (h : ofPairs ps = .ok j) :
  Increasing j.pairs
  := by
  obtain ⟨-, -, hpairs⟩ := ofPairs_eq_ok_iff.1 h
  rw [hpairs]
  apply increasing_canonical

theorem ordering_of_mem_pairs (h : ofPairs ps = .ok j) (hp : p ∈ j.pairs) :
  ordering p.1.table p.2.table = .lt
  := by
  obtain ⟨-, hrelated, hpairs⟩ := ofPairs_eq_ok_iff.1 h
  rw [hpairs, mem_canonical, List.mem_map] at hp
  obtain ⟨q, hq, rfl⟩ := hp
  apply ordering_orient (hrelated.table_ne hq)

/-- The pairs of a join make the join. -/
theorem ofPairs_pairs (h : ofPairs ps = .ok j) :
  ofPairs j.pairs = .ok j
  := by
  have horiented : j.pairs.map orient = j.pairs := by
    rw [List.map_congr_left (g := id), List.map_id]
    intro p hp
    apply orient_of_lt (ordering_of_mem_pairs h hp)
  rw [ofPairs_eq_ok_iff]
  use j.nonempty, related_pairs_of_ofPairs h
  rw [horiented, canonical_of_increasing (increasing_pairs_of_ofPairs h)]

/-- Neither the order of the pairs nor their number matters. -/
theorem ofPairs_of_same_members (h : ofPairs ps = .ok j) (hqs : ∀ p, p ∈ qs ↔ p ∈ ps) :
  ofPairs qs = .ok j
  := by
  obtain ⟨hnil, hrelated, hpairs⟩ := ofPairs_eq_ok_iff.1 h
  rw [ofPairs_eq_ok_iff]
  refine ⟨?_, hrelated.subset fun p => (hqs p).1, ?_⟩
  · obtain ⟨p, hp⟩ := List.exists_mem_of_ne_nil ps hnil
    apply List.ne_nil_of_mem ((hqs p).2 hp)
  · rw [hpairs]
    apply canonical_congr
    simp only [List.mem_map, hqs, implies_true]

theorem ofPairs_map_flip (h : ofPairs ps = .ok j) :
  ofPairs (ps.map flip) = .ok j
  := by
  obtain ⟨hnil, hrelated, hpairs⟩ := ofPairs_eq_ok_iff.1 h
  rw [ofPairs_eq_ok_iff]
  refine ⟨mt List.map_eq_nil_iff.1 hnil, hrelated.map_flip, ?_⟩
  rw [hpairs, List.map_map]
  congr 1
  apply List.map_congr_left
  intro p hp
  apply (orient_flip (hrelated.table_ne hp)).symm

/-- The renamed join is the join of the renamed pairs. -/
theorem ofPairs_map_renamePair (h : ofPairs ps = .ok j) {g : Table → Table}
    (hf : ∀ c, (f c).table = g c.table) (hg : ∀ p ∈ ps, g p.1.table ≠ g p.2.table) :
  ofPairs (ps.map (renamePair f)) = .ok (j.rename f)
  := by
  obtain ⟨hnil, hrelated, hpairs⟩ := ofPairs_eq_ok_iff.1 h
  rw [ofPairs_eq_ok_iff]
  refine ⟨mt List.map_eq_nil_iff.1 hnil, hrelated.map_renamePair hf hg, ?_⟩
  -- the pairs of the join have been turned once, by the tables before the renaming
  have hturned : (ps.map (renamePair f)).map orient
      = (ps.map orient).map fun p => orient (renamePair f p) := by
    rw [List.map_map, List.map_map]
    apply List.map_congr_left
    intro p hp
    symm
    apply orient_renamePair_orient
    rw [hf, hf]
    apply hg p hp
  rw [hturned]
  apply canonical_congr
  intro q
  rw [hpairs, List.mem_map, List.mem_map]
  simp only [mem_canonical]
  rfl

/-- The pairs of a join increase strictly, with the smaller table on the left, and they make the join
again.  Other pairs make the same join if they are the same ones, in any order and any number, or the
same ones with their sides exchanged.  If tables are renamed such that the two tables stay apart, the
renamed join is the join of the renamed pairs. -/
theorem ofPairs_canonical (h : ofPairs ps = .ok j) :
  (Increasing j.pairs ∧ ∀ p ∈ j.pairs, ordering p.1.table p.2.table = .lt)
    ∧ ofPairs j.pairs = .ok j
    ∧ (∀ qs, (∀ p, p ∈ qs ↔ p ∈ ps) → ofPairs qs = .ok j ∧ ofPairs (qs.map flip) = .ok j)
    ∧ ∀ (f : Column → Column) (g : Table → Table), (∀ c, (f c).table = g c.table)
      → (∀ p ∈ ps, g p.1.table ≠ g p.2.table)
      → ofPairs (ps.map (renamePair f)) = .ok (j.rename f)
  := by
  refine ⟨⟨increasing_pairs_of_ofPairs h, ?_⟩, ofPairs_pairs h, ?_, ?_⟩
  · intro p hp
    apply ordering_of_mem_pairs h hp
  · intro qs hqs
    have hsame := ofPairs_of_same_members h hqs
    use hsame, ofPairs_map_flip hsame
  · intro f g hf hg
    apply ofPairs_map_renamePair h hf hg

/-! ### Pairs of people and friends -/

/-- Pairs with the larger table on the left, the smaller pair last. -/
def peoplePairs : List (Column × Column) :=
  [(⟨⟨none, "people"⟩, "id"⟩, ⟨⟨none, "friends"⟩, "b"⟩),
    (⟨⟨none, "people"⟩, "home"⟩, ⟨⟨none, "friends"⟩, "a"⟩)]

/-- The join of the pairs. -/
def peopleJoin : Join where
  pairs :=
    [(⟨⟨none, "friends"⟩, "a"⟩, ⟨⟨none, "people"⟩, "home"⟩),
      (⟨⟨none, "friends"⟩, "b"⟩, ⟨⟨none, "people"⟩, "id"⟩)]
  nonempty := List.cons_ne_nil _ _

/-- Reads people under the name of a copy, which comes before the friends. -/
def copyPeople (t : Table) : Table := if t.name = "people" then t.copy 1 else t

/-- The pairs make the same join if they are reversed, repeated and exchanged.  When the people are
renamed, the pairs of the join are turned back. -/
theorem ofPairs_canonical_peoplePairs :
  ofPairs peoplePairs = .ok peopleJoin
    ∧ ofPairs ((peoplePairs.reverse ++ peoplePairs).map flip) = .ok peopleJoin
    ∧ (peopleJoin.rename fun c => ⟨copyPeople c.table, c.name⟩).pairs
      = [(⟨⟨none, "T1_people"⟩, "home"⟩, ⟨⟨none, "friends"⟩, "a"⟩),
        (⟨⟨none, "T1_people"⟩, "id"⟩, ⟨⟨none, "friends"⟩, "b"⟩)]
    ∧ ofPairs (peoplePairs.map (renamePair fun c => ⟨copyPeople c.table, c.name⟩))
      = .ok (peopleJoin.rename fun c => ⟨copyPeople c.table, c.name⟩)
  := by
  have hjoin : ofPairs peoplePairs = .ok peopleJoin := by
    apply eq_ok_of_toOption
    decide
  obtain ⟨-, -, hsame, hrename⟩ := ofPairs_canonical hjoin
  refine ⟨hjoin, (hsame _ ?_).2, by decide, hrename _ copyPeople (fun _ => rfl) (by decide)⟩
  simp

end RelGraph.Sql.Join
