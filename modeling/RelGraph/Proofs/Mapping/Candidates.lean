import RelGraph.Proofs.Mapping.NumberedCandidates

/-!
# Candidates of a pattern

The candidates of a pattern are the triple maps that are restricted to the terms of the pattern.  If
there are several patterns, each candidate reads copies of the tables.  If the condition is in normal
form, a pick is in a candidate exactly when the records that it has for the tables of the triple map
are in the triple map, and give the terms of the pattern.  Candidates of different patterns have no
table in common.
-/

namespace RelGraph.Sql

/-! ### Views -/

/-- The name under which a table is read: its own, or that of a copy. -/
def Table.view (k : Option Nat) (t : Table) : Table := (k.map t.copy).getD t

/-- The column of the table as it is read. -/
def Column.view (k : Option Nat) (c : Column) : Column := ⟨c.table.view k, c.name⟩

/-- What a pick for the tables as they are read picks for the tables. -/
def Pick.view (pick : Pick) (k : Option Nat) : Pick := fun t => pick (t.view k)

@[simp]
theorem Pick.cell_view (pick : Pick) (k : Option Nat) (c : Column) :
  pick.cell (c.view k) = (pick.view k).cell c
  := rfl

/-- A pick in a renamed restricted relation is in the renamed relation. -/
theorem Relation.Restricts.holds_renamed {r s : Relation} {condition : Expr}
    (h : r.Restricts s condition) {names aliases : Aliases}
    (htables : ∀ x ∈ (r.renamed names aliases).tables, x ∈ (s.renamed names aliases).tables)
    {db : Database} {pick : Pick} (hpick : (s.renamed names aliases).Holds db pick) :
  (r.renamed names aliases).Holds db pick
  := by
  obtain ⟨hpicks, hjoins, hcondition⟩ := hpick
  rw [renamed, h.joins] at hjoins
  refine ⟨fun x hx => hpicks x (htables x hx), hjoins, ?_⟩
  rw [renamed] at hcondition ⊢
  obtain heq | heq := h.conjoined
  · rw [heq, Expr.holdsAt_rename_andAll] at hcondition
    apply hcondition _ List.mem_cons_self
  · rw [heq] at hcondition
    apply hcondition

end RelGraph.Sql

namespace RelGraph.Mapping

open Rdf Sql

/-- A term map gives on the tables as they are read what it gives on the tables. -/
theorem TermMap.makeAt_view (pick : Pick) (k : Option Nat) (t : TermMap) :
  (t.rename (Column.view k)).makeAt pick.cell = t.makeAt (pick.view k).cell
  := makeAt_rename fun _ _ => rfl

theorem TermMap.unambiguousAt_view {pick : Pick} {k : Option Nat} {t : TermMap}
    (h : t.UnambiguousAt (pick.view k).cell) :
  (t.rename (Column.view k)).UnambiguousAt pick.cell
  := unambiguousAt_rename (fun _ _ => rfl) h

namespace TripleMap

/-! ### Triple maps as they are read -/

/-- The triple map as it is read: itself, or a copy. -/
def view (m : TripleMap) : Option Nat → Except AliasError TripleMap
  | none => .ok m
  | some n => m.copy n

theorem Made.view {m s : TripleMap} (h : m.Made) {k : Option Nat} (hs : m.view k = .ok s) :
  s.Made
  := by
  cases k with
  | none =>
    cases hs
    apply h
  | some n => apply h.copy hs

/-- What is known of the tables of a triple map as it is read. -/
structure ViewOf (m : TripleMap) (k : Option Nat) (c : TripleMap) : Prop where
  sound : c.relation.Sound
  database : c.relation.database = m.relation.database
  unique : c.relation.unique = m.relation.unique
  fits : ∀ db, m.relation.Fits db → c.relation.Fits db
  projections : ∀ x, x ∈ c.relation.projections ↔ x ∈ c.columns
  tables : ∀ x, x ∈ c.relation.tables ↔ ∃ t ∈ m.relation.tables, t.view k = x
  apart : ∀ t ∈ m.relation.tables, ∀ u ∈ m.relation.tables, t.view k = u.view k → t = u
  tableOf : ∀ t ∈ m.relation.tables, c.relation.aliases.tableOf (t.view k) = m.relation.aliases.tableOf t
  aliased : k.isSome → c.relation.Aliased

section

variable {m s c : TripleMap} {p : TriplePattern} {k : Option Nat}

section

variable (he : s.relation.isEmpty = false) (h : s.view k = .ok c)

include he h

theorem termMaps_view (hs : s.Sound) :
  c.termMaps = s.termMaps.map (·.rename (Column.view k))
  := by
  cases k with
  | none =>
    cases h
    rw [List.map_congr_left fun t _ => t.rename_id, List.map_id']
  | some n =>
    simp only [view, copy, bind_eq_ok, pure_eq_ok] at h
    obtain ⟨names, hnames, relation, hrelation, rfl⟩ := h
    apply List.map_congr_left (f := TermMap.rename names.nameColumn) (l := s.termMaps)
    intro t ht
    apply TermMap.rename_congr
    intro x hx
    apply Relation.nameColumn_eq hnames hs.sound
    rw [Relation.mem_columnList_iff, hs.made.mem_projections_iff he, columns, List.mem_flatMap]
    exact .inr (.inr (.inl ⟨t, ht, hx⟩))

/-- A restricted triple map reads the tables of the triple map. -/
theorem viewOf_view {condition : Expr} (hr : m.relation.Restricts s.relation condition)
    (hs : s.Made) :
  m.ViewOf k c
  := by
  have htermMaps := termMaps_view he h ⟨hs, hr.sound⟩
  cases k with
  | none =>
    cases h
    refine ⟨hr.sound, hr.database, hr.unique, fun _ => hr.fits, fun _ => hs.mem_projections_iff he,
      ?_, by simp [Table.view], ?_, by simp⟩
    · intro x
      rw [hr.tables]
      simp [Table.view]
    · intro t _
      rw [hr.aliases]
      rfl
  | some n =>
    simp only [view, copy, bind_eq_ok, pure_eq_ok] at h
    obtain ⟨names, hnames, relation, hrelation, rfl⟩ := h
    have hcopy := Relation.copyOf_renameTables hnames he hrelation hr.sound
    constructor
    · apply hcopy.sound
    · rw [hcopy.database, hr.database]
    · rw [hcopy.unique, hr.unique]
    · intro db hfits
      apply hcopy.fits hr.sound (hr.fits hfits)
    · intro x
      rw [hcopy.projections, columns, htermMaps]
      simp only [hs.mem_projections_iff he, columns, List.flatMap_map, TermMap.columns_rename,
        List.mem_flatMap, List.mem_map]
      constructor
      · rintro ⟨z, ⟨t, ht, hz⟩, rfl⟩
        use t, ht, z, hz
        rfl
      · rintro ⟨t, ht, z, hz, rfl⟩
        use z, ⟨t, ht, hz⟩
        rfl
    · intro x
      rw [hcopy.tables, hr.tables]
      rfl
    · rw [← hr.tables]
      apply hcopy.apart
    · rw [← hr.tables, ← hr.aliases]
      apply hcopy.tableOf
    · intro _
      apply hcopy.aliased

/-- If the condition is in normal form, the rows are those of the triple map. -/
theorem holds_view (hs : s.relation.Sound) (hn : s.relation.condition.Normal) :
  ∀ db pick, c.relation.Holds db pick ↔ s.relation.Holds db (pick.view k)
  := by
  cases k with
  | none =>
    cases h
    exact fun _ _ => Iff.rfl
  | some n =>
    simp only [view, copy, bind_eq_ok, pure_eq_ok] at h
    obtain ⟨names, hnames, relation, hrelation, rfl⟩ := h
    apply (Relation.renamedBy_copy hnames he hrelation hs hn).holds

end

/-! ### Candidates -/

/-- The triple map is read, restricted to the pattern. -/
def IsCandidate (m : TripleMap) (p : TriplePattern) (k : Option Nat) (c : TripleMap) : Prop :=
  (m.relation.select (m.conditionFor p)).isEmpty = false ∧ (m.restricted p).view k = .ok c

/-- The outline of a candidate of a pattern: its tables and its term maps. -/
structure OutlineOf (m : TripleMap) (p : TriplePattern) (k : Option Nat) (c : TripleMap) : Prop
    extends m.ViewOf k c where
  termMaps : c.termMaps = (m.places p).map fun q => (atPosition q.1 q.2).rename (Column.view k)

/-- What is known of a candidate of a pattern. -/
structure CandidateOf (m : TripleMap) (p : TriplePattern) (k : Option Nat) (c : TripleMap) : Prop
    extends m.OutlineOf p k c where
  holds : ∀ db pick, c.relation.Holds db pick
    ↔ m.relation.Holds db (pick.view k) ∧ Expr.HoldsAt (pick.view k).cell (m.conditionFor p)

namespace IsCandidate

variable (h : m.IsCandidate p k c)

include h

theorem outlineOf (hm : m.Sound) :
  m.OutlineOf p k c
  := by
  have hr := restricts_restricted hm h.1
  have he := isEmpty_restricted h.1
  use viewOf_view he h.2 hr (.ofRelation ..)
  rw [termMaps_view he h.2 ⟨.ofRelation .., hr.sound⟩, termMaps_restricted, List.map_map]
  rfl

theorem candidateOf (hm : m.Readable) :
  m.CandidateOf p k c
  := by
  have hr := restricts_restricted hm.toSound h.1
  use h.outlineOf hm.toSound
  intro db pick
  rw [holds_view (isEmpty_restricted h.1) h.2 hr.sound (normal_restricted h.1 hm.built), hr.holds]

/-- A pick in a candidate is in the triple map as it is read, whatever the form of the condition. -/
theorem exists_view_holds (hm : m.Sound) :
  ∃ s, m.view k = .ok s ∧ ∀ db pick, c.relation.Holds db pick → s.relation.Holds db pick
  := by
  obtain ⟨he, h⟩ := h
  have hr := restricts_restricted hm he
  cases k with
  | none =>
    cases h
    use m, rfl
    intro db pick hpick
    apply ((hr.holds db pick).1 hpick).1
  | some n =>
    have hm' := Relation.isEmpty_eq_false_of_select he
    simp only [view, copy, bind_eq_ok, pure_eq_ok] at h ⊢
    obtain ⟨names, hnames, relation, hrelation, rfl⟩ := h
    have hcopy := Relation.copyOf_renameTables hnames (isEmpty_restricted he) hrelation hr.sound
    obtain ⟨aliases, hcompose, rfl⟩ :=
      (Relation.renameTables_eq_ok (isEmpty_restricted he)).1 hrelation
    rw [Relation.copyNames, hr.tables] at hnames
    rw [hr.aliases] at hcompose
    have hrenamed := (Relation.renameTables_eq_ok hm').2 ⟨aliases, hcompose, rfl⟩
    refine ⟨_, ⟨names, hnames, _, hrenamed, rfl⟩, fun db pick => hr.holds_renamed ?_⟩
    intro x hx
    rw [hcopy.tables, hr.tables]
    apply ((Relation.copyOf_renameTables hnames hm' hrenamed hm.sound).tables x).1 hx

end IsCandidate

/-- A pattern without a candidate has no triples. -/
theorem not_holdsAt_of_selectPattern? (h : m.selectPattern? p = none) (cells : Column → Cell) :
  ¬ (Expr.HoldsAt cells m.relation.condition ∧ Expr.HoldsAt cells (m.conditionFor p))
  := by
  apply Relation.not_holdsAt_of_isEmpty_select
  by_contra he
  rw [selectPattern?_eq, if_neg he] at h
  cases h

/-- What the tables of the triple map are given can be given to the tables as they are read. -/
theorem ViewOf.exists_view {α : Type} (h : m.ViewOf k c) (give : Table → α) :
  ∃ give' : Table → α, ∀ t ∈ m.relation.tables, give' (t.view k) = give t
  := by
  classical
  use fun x => if hx : ∃ t ∈ m.relation.tables, t.view k = x then give hx.choose else give x
  intro t ht
  have hx : ∃ u ∈ m.relation.tables, u.view k = t.view k := ⟨t, ht, rfl⟩
  simp only [dif_pos hx]
  rw [h.apart _ hx.choose_spec.1 t ht hx.choose_spec.2]

end

/-- What the tables of some triple maps are given can be given together to the tables of candidates
without common tables. -/
theorem exists_common_view {ι α : Type} {l : List ι} {m c : ι → TripleMap}
    {k : ι → Option Nat} (h : ∀ i ∈ l, (m i).ViewOf (k i) (c i))
    (hapart : l.Pairwise fun i j => (c i).relation.Apart (c j).relation)
    (give : ι → Table → α) (other : Table → α) :
  ∃ common : Table → α, ∀ i ∈ l, ∀ t ∈ (m i).relation.tables, common (t.view (k i)) = give i t
  := by
  induction l with
  | nil =>
    use other
    simp
  | cons i l ih =>
    rw [List.forall_mem_cons] at h
    rw [List.pairwise_cons] at hapart
    obtain ⟨rest, hrest⟩ := ih h.2 hapart.2
    obtain ⟨first, hfirst⟩ := h.1.exists_view (give i)
    use fun x => if x ∈ (c i).relation.tables then first x else rest x
    rw [List.forall_mem_cons]
    constructor
    · intro t ht
      have hx : t.view (k i) ∈ (c i).relation.tables := (h.1.tables _).2 ⟨t, ht, rfl⟩
      simp only [if_pos hx, hfirst t ht]
    · intro j hj t ht
      have hx : t.view (k j) ∈ (c j).relation.tables := ((h.2 j hj).tables _).2 ⟨t, ht, rfl⟩
      have hne : t.view (k j) ∉ (c i).relation.tables := by
        intro hmem
        apply hapart.1 j hj _ hmem hx
      simp only [if_neg hne, hrest j hj t ht]

end TripleMap

/-! ### The candidates of all patterns -/

/-- The candidates of a pattern come from the triple maps that have triples of it, and from all of
them. -/
structure CandidatesOf (maps : List TripleMap) (copies : Bool) (p : TriplePattern)
    (found : List TripleMap) : Prop where
  mem : ∀ c ∈ found, ∃ m ∈ maps, ∃ k : Option Nat, k.isSome = copies ∧ m.IsCandidate p k c
  all : ∀ m ∈ maps, m.selectPattern? p = none ∨ ∃ c ∈ found, ∃ k, m.IsCandidate p k c

section

variable {copies : Bool} {p : TriplePattern} {low high : Nat} {maps found : List TripleMap}

theorem CandidatesOf.skip {m : TripleMap} (hm : m.selectPattern? p = none)
    (h : CandidatesOf maps copies p found) :
  CandidatesOf (m :: maps) copies p found
  := by
  constructor
  · intro c hc
    obtain ⟨m', hm', hfound⟩ := h.mem c hc
    use m', List.mem_cons_of_mem _ hm'
  · rw [List.forall_mem_cons]
    use .inl hm, h.all

theorem CandidatesOf.cons {m c : TripleMap} {k : Option Nat} (hc : m.IsCandidate p k c)
    (hk : k.isSome = copies) (h : CandidatesOf maps copies p found) :
  CandidatesOf (m :: maps) copies p (c :: found)
  := by
  constructor
  · rw [List.forall_mem_cons]
    constructor
    · use m, List.mem_cons_self, k
    · intro c' hc'
      obtain ⟨m', hm', hfound⟩ := h.mem c' hc'
      use m', List.mem_cons_of_mem _ hm'
  · rw [List.forall_mem_cons]
    constructor
    · right
      use c, List.mem_cons_self, k
    · intro m' hm'
      apply (h.all m' hm').imp_right
      rintro ⟨c', hc', hfound⟩
      use c', List.mem_cons_of_mem _ hc'

theorem candidatesOf_candidates (h : candidates copies p low maps = .ok (found, high)) :
  CandidatesOf maps copies p found
  := by
  induction maps generalizing low found with
  | nil =>
    cases h
    exact ⟨by simp, by simp⟩
  | cons m maps ih =>
    rw [candidates] at h
    split at h
    · rename_i hnone
      apply (ih h).skip hnone
    · rename_i selected hselected
      rw [TripleMap.selectPattern?_eq] at hselected
      split at hselected
      · cases hselected
      · rename_i he
        rw [Bool.not_eq_true] at he
        cases hselected
        split at h
        · rename_i hcopies
          split at h
          · cases h
          · rename_i copied hcopied
            obtain ⟨⟨rest, n'⟩, hrest, heq⟩ := bind_eq_ok.1 h
            cases heq
            have hc : m.IsCandidate p (some (low + 1)) copied := ⟨he, hcopied⟩
            apply (ih hrest).cons hc hcopies.symm
        · rename_i hcopies
          obtain ⟨⟨rest, n'⟩, hrest, heq⟩ := bind_eq_ok.1 h
          cases heq
          have hc : m.IsCandidate p none (m.restricted p) := ⟨he, rfl⟩
          rw [Bool.not_eq_true] at hcopies
          apply (ih hrest).cons hc hcopies.symm

/-- A pattern without candidates has no triples in any of the triple maps. -/
theorem selectPattern?_of_allCandidates {ps : List TriplePattern}
    (h : allCandidates copies maps low ps = .ok none) :
  ∃ p ∈ ps, ∀ m ∈ maps, m.selectPattern? p = none
  := by
  induction ps generalizing low with
  | nil => cases h
  | cons p ps ih =>
    obtain ⟨found, high, hfound, ⟨rfl, -⟩ | ⟨rest, hrest, heq⟩⟩ := allCandidates_cons h
    · use p, List.mem_cons_self
      intro m hm
      apply ((candidatesOf_candidates hfound).all m hm).resolve_right
      simp
    · obtain rfl := Option.map_eq_none_iff.1 heq.symm
      obtain ⟨q, hq, hall⟩ := ih hrest
      use q, List.mem_cons_of_mem _ hq

theorem exists_candidatesOf {ps : List TriplePattern}
    {found : List (TriplePattern × List TripleMap)}
    (h : allCandidates copies maps low ps = .ok (some found)) :
  ∀ e ∈ found, CandidatesOf maps copies e.1 e.2
  := by
  induction ps generalizing low found with
  | nil =>
    cases h
    simp
  | cons p ps ih =>
    obtain ⟨cs, high, hcs, ⟨-, hnone⟩ | ⟨rest, hrest, heq⟩⟩ := allCandidates_cons h
    · cases hnone
    · obtain ⟨tail, rfl, rfl⟩ := Option.map_eq_some_iff.1 heq.symm
      rw [List.forall_mem_cons]
      use candidatesOf_candidates hcs, ih hrest

/-- What is found for all the patterns, with different copies for different patterns. -/
theorem candidatesOf_allCandidates {ps : List TriplePattern}
    {found : List (TriplePattern × List TripleMap)} (hmaps : ∀ m ∈ maps, m.Sound)
    (h : allCandidates copies maps low ps = .ok (some found)) :
  found.map (·.1) = ps ∧ (∀ e ∈ found, CandidatesOf maps copies e.1 e.2)
    ∧ (copies = true
      → found.Pairwise fun e e' => ∀ c ∈ e.2, ∀ c' ∈ e'.2, c.relation.Apart c'.relation)
  := by
  refine ⟨map_fst_of_allCandidates h, exists_candidatesOf h, ?_⟩
  rintro rfl
  apply pairwise_apart_of_allCandidates h
  intro m hm j hj
  apply ((hmaps m hm).sound.joins j hj).uniform

end

end RelGraph.Mapping
