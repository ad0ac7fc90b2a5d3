import RelGraph.Proofs.Mapping.Bgp
import RelGraph.Proofs.Mapping.Concurrence

/-!
# Patterns and triple maps in another order

If the patterns and the triple maps are listed in another order, the copies of the tables get other
numbers, the patterns are assigned in another order, and another term map is kept for a variable.
The bindings are the same: what was assigned in one order can be assigned in the other, the records
that were picked are picked for the renamed tables, and the occurrences of the variables concur on
them.  The exception is a variable with a fixed term map.  If it comes first, it is compared with
each of the others, but before it comes, two others that can not be compared are given up.
-/

namespace RelGraph.Mapping

open Rdf Sql

/-- One of the solution maps gives the binding. -/
def Yields (db : Database) (solutions : List SolutionMap) (b : Binding) : Prop :=
  ∃ s ∈ solutions, ∃ bs, s.run db = .ok bs ∧ b ∈ bs

/-- The term maps at a variable that can give the term of a fixed one at it can be compared. -/
def Reconcilable (maps : List TripleMap) (patterns : List TriplePattern) : Prop :=
  ∀ p₀ ∈ patterns, ∀ m₀ ∈ maps, ∀ p ∈ patterns, ∀ m ∈ maps, ∀ p' ∈ patterns, ∀ m' ∈ maps,
    ∀ v x t t', (.variable v, .fixed x) ∈ m₀.places p₀ → (.variable v, t) ∈ m.places p
      → (.variable v, t') ∈ m'.places p' → t.conditionFor x ≠ .never → t'.conditionFor x ≠ .never
        → t.Comparable t'

/-! ### Candidates of one triple map under two numbers -/

/-- A triple map with the candidates of a pattern that come from it in two searches. -/
structure Twins where
  pattern : TriplePattern
  map : TripleMap
  number : Option Nat
  number' : Option Nat
  candidate : TripleMap
  candidate' : TripleMap
  candidateOf : map.CandidateOf pattern number candidate
  candidateOf' : map.CandidateOf pattern number' candidate'

namespace Twins

/-- The choice of the first search. -/
def choice (t : Twins) : Choice := (t.pattern, t.candidate)

/-- The choice of the second search. -/
def choice' (t : Twins) : Choice := (t.pattern, t.candidate')

end Twins

/-- The column of the same name in another table. -/
def moveColumn (move : Table → Table) (c : Column) : Column := ⟨move c.table, c.name⟩

/-- The tables of the first candidate are moved to those of the second one, with their records. -/
structure Twins.Moved (t : Twins) (move : Table → Table) (pick pick' : Pick) : Prop where
  tables : ∀ x ∈ t.map.relation.tables, move (x.view t.number) = x.view t.number'
  records : ∀ x ∈ t.map.relation.tables, pick (x.view t.number) = pick' (x.view t.number')

/-- The tables of several candidates can be moved together. -/
theorem Twins.exists_moved {l : List Twins}
    (hapart : l.Pairwise fun t u => t.candidate.relation.Apart u.candidate.relation)
    (hapart' : l.Pairwise fun t u => t.candidate'.relation.Apart u.candidate'.relation)
    (pick : Pick) :
  ∃ move pick', ∀ t ∈ l, t.Moved move pick pick'
  := by
  obtain ⟨move, hmove⟩ := TripleMap.exists_common_view (fun t _ => t.candidateOf.toViewOf) hapart
    (fun t x => x.view t.number') id
  obtain ⟨pick', hpick'⟩ := TripleMap.exists_common_view (fun t _ => t.candidateOf'.toViewOf) hapart'
    (fun t x => pick (x.view t.number)) fun _ => []
  use move, pick'
  intro t ht
  constructor
  · apply hmove t ht
  · intro x hx
    apply (hpick' t ht x hx).symm

theorem TermMap.rename_rename (f g : Column → Column) (m : TermMap) :
  (m.rename f).rename g = m.rename (g ∘ f)
  := by
  cases m with
  | fixed t => rfl
  | typed k v =>
    cases v <;> simp [rename, ValueMap.rename, Template.rename, BlankKey.rename]

section

variable {db : Database} {maps : List TripleMap} {b : Binding}

/-- A pick in a candidate on which the occurrences have the terms of a binding is drawn from the
triple map. -/
theorem drawn_of_holds {c : Choice} {m : TripleMap} {k : Option Nat} {pick : Pick} (hm : m ∈ maps)
    (hcandidate : m.CandidateOf c.1 k c.2) (hpick : c.2.relation.Holds db pick)
    (hb : ∀ o ∈ c.occurrences, (b.get? o.1).isSome ∧ o.2.makeAt pick.cell = b.get? o.1) :
  Drawn db maps b c m k (pick.view k)
  := by
  obtain ⟨hholds, hcondition⟩ := (hcandidate.holds db pick).1 hpick
  refine ⟨hm, hcandidate, hholds, hcondition, ?_⟩
  rw [TripleMap.holdsAt_conditionFor_iff] at hcondition
  rintro ⟨y, t⟩ hq
  cases y with
  | term u =>
    rw [TermMap.makeAt_of_holdsAt (hcondition u t hq)]
    exact ⟨rfl, rfl⟩
  | _ v =>
    obtain ⟨hsome, hmake⟩ := hb _ (hcandidate.mem_occurrences_iff.2 ⟨t, hq, rfl⟩)
    rw [TermMap.makeAt_view] at hmake
    rw [hmake]
    exact ⟨hsome, rfl⟩

namespace Twins

variable {t : Twins} {move : Table → Table} {pick pick' : Pick}

/-- What is drawn for the first candidate is drawn for the second one. -/
theorem Moved.drawn (h : t.Moved move pick pick') (hm : t.map.Readable)
    (hdrawn : Drawn db maps b t.choice t.map t.number (pick.view t.number)) :
  Drawn db maps b t.choice' t.map t.number' (pick'.view t.number')
  := by
  have hdrawn' := hdrawn.congr hm h.records
  exact ⟨hdrawn'.mem, t.candidateOf', hdrawn'.holds, hdrawn'.condition, hdrawn'.terms⟩

/-- The occurrences of the second candidate are those of the first one, in the tables they were moved
to. -/
theorem Moved.exists_occurrence (h : t.Moved move pick pick') (hm : t.map.Readable)
    (hpick : t.candidate.relation.Holds db pick) {v : Variable} {u' : TermMap}
    (hu' : (v, u') ∈ t.choice'.occurrences) :
  ∃ u, (v, u) ∈ t.choice.occurrences ∧ u' = u.rename (moveColumn move)
    ∧ ∀ c ∈ u.columns, pick'.cell (moveColumn move c) = pick.cell c
  := by
  obtain ⟨u, hu, rfl⟩ := t.candidateOf'.mem_occurrences_iff.1 hu'
  have hholds := ((t.candidateOf.holds db pick).1 hpick).1
  have htable : ∀ c ∈ u.columns, c.table ∈ t.map.relation.tables :=
    fun c hc => hm.table_mem hholds (List.of_mem_zip hu).2 hc
  have hmove : ∀ c ∈ u.columns, moveColumn move (c.view t.number) = c.view t.number' := by
    intro c hc
    rw [moveColumn, Column.view, h.tables _ (htable c hc)]
    rfl
  use u.rename (Column.view t.number), t.candidateOf.mem_occurrences_iff.2 ⟨u, hu, rfl⟩
  constructor
  · rw [TermMap.rename_rename]
    apply TermMap.rename_congr
    intro c hc
    apply (hmove c hc).symm
  · rw [TermMap.columns_rename, List.forall_mem_map]
    intro c hc
    rw [hmove c hc, Pick.cell_view, Pick.cell_view, Pick.cell, Pick.cell, Pick.view, Pick.view,
      h.records _ (htable c hc)]

end Twins

end

/-! ### Assignments in another order -/

section

variable {db : Database} {maps : List TripleMap} {patterns : List TriplePattern}
  {choices : List Choice} {pick pick' : Pick} {b : Binding}

theorem exists_place
    (hchoices : ∀ c ∈ choices, c.1 ∈ patterns ∧ ∃ m ∈ maps, ∃ k, m.CandidateOf c.1 k c.2)
    {v : Variable} {u : TermMap} (hu : (v, u) ∈ choices.flatMap Choice.occurrences) :
  ∃ p ∈ patterns, ∃ m ∈ maps, ∃ k t, (.variable v, t) ∈ m.places p
    ∧ u = t.rename (Column.view k)
  := by
  obtain ⟨c, hc, hu⟩ := List.mem_flatMap.1 hu
  obtain ⟨hp, m, hm, k, hcandidate⟩ := hchoices c hc
  obtain ⟨t, ht, rfl⟩ := hcandidate.mem_occurrences_iff.1 hu
  exact ⟨c.1, hp, m, hm, k, t, ht, rfl⟩

/-- Where an assignment binds the variables, the occurrences of each of them concur. -/
theorem concur_of_binds (hclear : Reconcilable maps patterns)
    (hchoices : ∀ c ∈ choices, c.1 ∈ patterns ∧ ∃ m ∈ maps, ∃ k, m.CandidateOf c.1 k c.2)
    {a : Assignment} (ha : Assignment.ofChoices? choices = some a)
    (hcondition : Expr.HoldsAt pick.cell a.condition)
    (hbinds : Assignment.Binds (choices.flatMap Choice.occurrences) pick.cell b)
    {v : Variable} {x : Term} (hx : b.get? v = some x) :
  Concur pick.cell x (Assignment.mapsAt (choices.flatMap Choice.occurrences) v)
  := by
  have hne : ∀ {k} {t : TermMap}, Expr.HoldsAt pick.cell ((t.rename (Column.view k)).conditionFor x)
      → t.conditionFor x ≠ .never := by
    intro k t hholds hnever
    rw [TermMap.holdsAt_conditionFor_rename (fun _ _ => Pick.cell_view pick k _), hnever] at hholds
    apply Expr.not_holdsAt_never hholds
  obtain ⟨u, hu⟩ := hbinds.2 v (by rw [hx]; rfl)
  obtain ⟨condition, compared, hagreement, hholds⟩ :=
    Assignment.exists_agreement?_of_ofChoices? ha hcondition hu
  apply Assignment.concur_of_agreement? hagreement hholds
  · intro m hm
    rw [(hbinds.1 (v, m) (Assignment.mem_mapsAt.1 hm)).2, hx]
  · intro hfixed m hm m' hm' hgives hgives'
    rw [Assignment.mem_mapsAt] at hfixed hm hm'
    obtain ⟨p₀, hp₀, m₀, hm₀, k₀, t₀, hplace₀, heq⟩ := exists_place hchoices hfixed
    obtain ⟨p, hp, n, hn, k, t, hplace, rfl⟩ := exists_place hchoices hm
    obtain ⟨p', hp', n', hn', k', t', hplace', rfl⟩ := exists_place hchoices hm'
    apply TermMap.Comparable.rename
    cases t₀ with
    | typed kind value => cases heq
    | fixed x =>
      cases heq
      apply hclear p₀ hp₀ m₀ hm₀ p hp n hn p' hp' n' hn' v x t t' hplace₀ hplace hplace'
        (hne hgives) (hne hgives')

/-- The occurrences of candidates that the tables were moved to can agree. -/
theorem exists_moved_assignment {l : List Twins} {move : Table → Table}
    (hmoved : ∀ t ∈ l, t.Moved move pick pick')
    (hreadable : ∀ t ∈ l, t.map.Readable ∧ t.candidate.relation.Holds db pick)
    (hchoices : ∀ t ∈ l, t.choice ∈ choices)
    (hconcur : ∀ v x, b.get? v = some x
      → Concur pick.cell x (Assignment.mapsAt (choices.flatMap Choice.occurrences) v))
    (hbinds : ∀ o ∈ (l.map Twins.choice').flatMap Choice.occurrences,
      (b.get? o.1).isSome ∧ o.2.makeAt pick'.cell = b.get? o.1) :
  ∃ a, Assignment.ofChoices? (l.map Twins.choice') = some a
    ∧ Expr.HoldsAt pick'.cell a.condition
  := by
  apply Assignment.exists_ofChoices?
  rintro ⟨v, u⟩ hu
  obtain ⟨x, hx⟩ := Option.isSome_iff_exists.1 (hbinds _ hu).1
  have hmake : ∀ m ∈ Assignment.mapsAt ((l.map Twins.choice').flatMap Choice.occurrences) v,
      m.makeAt pick'.cell = some x := by
    intro m hm
    rw [(hbinds (v, m) (Assignment.mem_mapsAt.1 hm)).2, hx]
  apply Assignment.exists_agreement?_of_concur (x := x) _ hmake
  apply (hconcur v x hx).of_renamed (f := moveColumn move)
  intro m' hm'
  rw [Assignment.mem_mapsAt, List.flatMap_map, List.mem_flatMap] at hm'
  obtain ⟨t, ht, hm'⟩ := hm'
  obtain ⟨m, hm, heq, hcells⟩ :=
    (hmoved t ht).exists_occurrence (hreadable t ht).1 (hreadable t ht).2 hm'
  use m, Assignment.mem_mapsAt.2 (List.mem_flatMap.2 ⟨t.choice, hchoices t ht, hm⟩), heq

/-- A pattern with a pick in a candidate has triples in the triple map. -/
theorem TripleMap.CandidateOf.selectPattern?_ne_none {m c : TripleMap} {p : TriplePattern}
    {k : Option Nat} (h : m.CandidateOf p k c) (hpick : c.relation.Holds db pick) :
  m.selectPattern? p ≠ none
  := by
  intro hnone
  obtain ⟨hholds, hcondition⟩ := (h.holds db pick).1 hpick
  apply not_holdsAt_of_selectPattern? hnone _ ⟨hholds.condition, hcondition⟩

/-- Each choice has a twin among the candidates of another search. -/
theorem exists_twins (hreadable : ∀ m ∈ maps, m.Readable)
    {ordered : List (TriplePattern × List TripleMap)} {copies : Bool}
    (hcandidates : ∀ e ∈ ordered, CandidatesOf maps copies e.1 e.2)
    (h : List.Forall₂ (fun e c => c.1 = e.1) ordered choices)
    (hchoices : ∀ c ∈ choices, c.2.relation.Holds db pick
      ∧ ∃ m ∈ maps, ∃ k, m.CandidateOf c.1 k c.2) :
  ∃ l : List Twins, l.map Twins.choice = choices
    ∧ Assignment.Chooses ordered (l.map Twins.choice') ∧ ∀ t ∈ l, t.map ∈ maps
  := by
  induction h with
  | nil => exact ⟨[], rfl, .nil, by simp⟩
  | @cons e c ordered choices hc _ ih =>
    obtain ⟨p, c⟩ := c
    obtain ⟨_, found⟩ := e
    obtain rfl := hc
    rw [List.forall_mem_cons] at hcandidates hchoices
    obtain ⟨l, hl, hchooses, hmaps⟩ := ih hcandidates.2 hchoices.2
    obtain ⟨hholds, m, hm, k, hcandidate⟩ := hchoices.1
    obtain hnone | ⟨c', hc', k', hcandidate'⟩ := hcandidates.1.all m hm
    · exact absurd hnone (hcandidate.selectPattern?_ne_none hholds)
    · refine ⟨⟨p, m, k, k', c, c', hcandidate, hcandidate'.candidateOf (hreadable m hm)⟩ :: l, ?_, ?_, ?_⟩
      · rw [List.map_cons, hl]
        rfl
      · apply List.Forall₂.cons ⟨rfl, hc'⟩ hchooses
      · rw [List.forall_mem_cons]
        use hm, hmaps

end

/-! ### Bindings in another order -/

/-- Candidates that were chosen for the patterns, and a pick on which they bind the variables. -/
structure Bound (db : Database) (maps : List TripleMap) (patterns : List TriplePattern)
    (b : Binding) (choices : List Choice) (pick : Pick) : Prop where
  candidate : ∀ c ∈ choices, ∃ m ∈ maps, ∃ k, m.CandidateOf c.1 k c.2
  apart : (choices.map fun c => c.2.relation).Pairwise Relation.Apart
  perm : (choices.map (·.1)).Perm patterns
  holds : ∀ c ∈ choices, c.2.relation.Holds db pick
  agree : ∃ a, Assignment.ofChoices? choices = some a ∧ Expr.HoldsAt pick.cell a.condition
  binds : Assignment.Binds (choices.flatMap Choice.occurrences) pick.cell b

section

variable {db : Database} {maps maps' : List TripleMap} {patterns patterns' : List TriplePattern}
  {solutions : List SolutionMap} {choices : List Choice} {pick : Pick} {b : Binding}

/-- A binding that is found is bound by candidates. -/
theorem exists_bound_of_yields (hreadable : ∀ m ∈ maps, m.Readable) (hne : patterns ≠ [])
    (h : solutionMaps patterns maps = .ok solutions) (hb : Yields db solutions b) :
  ∃ choices pick, Bound db maps patterns b choices pick
  := by
  have hsound : ∀ m ∈ maps, m.Sound := fun m hm => (hreadable m hm).toSound
  obtain ⟨s, hs, bs, hbs, hb⟩ := hb
  obtain ⟨rfl, -⟩ | ⟨-, rfl⟩ | ⟨found, ordered, hfound, hordered, -, hsolutions⟩ :=
    solutionMaps_cases h
  · contradiction
  · cases hs
  · obtain ⟨he, a, ha, hs⟩ := (hsolutions s).1 hs
    obtain ⟨choices, hchooses, ha⟩ := Assignment.exists_chooses_of_mem_found ha
    obtain ⟨hjoinable, -⟩ := joinable_of_chooses hsound hfound hordered hchooses
    obtain ⟨pick, hholds, hcondition, hbinds⟩ :=
      (mem_run_iff_of_chooses hsound hfound hordered hchooses ha hs he hbs).1 hb
    use choices, pick
    refine ⟨hjoinable.candidateOf hreadable, hjoinable.apart, ?_, hholds, ⟨a, ha, hcondition⟩, hbinds⟩
    rw [hchooses.map_fst, ← (candidatesOf_allCandidates hsound hfound).1]
    apply hordered.map

/-- The choices have twins in the order of another search. -/
theorem Bound.exists_twins (h : Bound db maps patterns b choices pick)
    (hmaps : ∀ m ∈ maps, m ∈ maps') (hreadable : ∀ m ∈ maps', m.Readable)
    {ordered : List (TriplePattern × List TripleMap)} {copies : Bool}
    (hcandidates : ∀ e ∈ ordered, CandidatesOf maps' copies e.1 e.2)
    (hordered : (ordered.map (·.1)).Perm patterns) :
  ∃ l : List Twins, (l.map Twins.choice).Perm choices
    ∧ Assignment.Chooses ordered (l.map Twins.choice') ∧ ∀ t ∈ l, t.map ∈ maps'
  := by
  have hforall : List.Forall₂ (fun p (c : Choice) => c.1 = p) (choices.map (·.1)) choices := by
    rw [List.forall₂_map_left_iff, List.forall₂_same]
    simp
  obtain ⟨arranged, harranged, hperm⟩ :=
    List.perm_comp_forall₂ (hordered.trans h.perm.symm) hforall
  rw [List.forall₂_map_left_iff] at harranged
  have hchoices : ∀ c ∈ arranged, c.2.relation.Holds db pick
      ∧ ∃ m ∈ maps', ∃ k, m.CandidateOf c.1 k c.2 := by
    intro c hc
    have hc := hperm.mem_iff.1 hc
    obtain ⟨m, hm, hcandidate⟩ := h.candidate c hc
    exact ⟨h.holds c hc, m, hmaps m hm, hcandidate⟩
  obtain ⟨l, rfl, hchooses, hl⟩ := Mapping.exists_twins hreadable hcandidates harranged hchoices
  use l, hperm, hchooses, hl

/-- The twins bind the same on a pick of their own, and so does any part of them. -/
theorem Bound.exists_pick (h : Bound db maps patterns b choices pick)
    (hclear : Reconcilable maps patterns) {l : List Twins}
    (hreadable : ∀ t ∈ l, t.map ∈ maps' ∧ t.map.Readable)
    (hperm : (l.map Twins.choice).Perm choices)
    (hapart : ((l.map Twins.choice').map fun c => c.2.relation).Pairwise Relation.Apart) :
  ∃ pick', (∀ n, ∃ a, Assignment.ofChoices? ((l.map Twins.choice').take n) = some a
      ∧ Expr.HoldsAt pick'.cell a.condition)
    ∧ (∀ c ∈ l.map Twins.choice', c.2.relation.Holds db pick')
    ∧ Assignment.Binds ((l.map Twins.choice').flatMap Choice.occurrences) pick'.cell b
  := by
  have hchoice : ∀ t ∈ l, t.choice ∈ choices :=
    fun t ht => hperm.mem_iff.1 (List.mem_map_of_mem ht)
  have hleft : l.Pairwise fun t u => t.candidate.relation.Apart u.candidate.relation := by
    have hall := ((hperm.map fun c => c.2.relation).pairwise_iff Relation.Apart.symm).2
      h.apart
    rw [List.map_map] at hall
    apply List.pairwise_map.1 hall
  rw [List.map_map] at hapart
  obtain ⟨move, pick', hmoved⟩ := Twins.exists_moved hleft (List.pairwise_map.1 hapart) pick
  have hdrawn : ∀ t ∈ l, Drawn db maps' b t.choice' t.map t.number' (pick'.view t.number') := by
    intro t ht
    apply (hmoved t ht).drawn (hreadable t ht).2
    apply drawn_of_holds (hreadable t ht).1 t.candidateOf (h.holds _ (hchoice t ht))
    intro o ho
    apply h.binds.1 o (List.mem_flatMap.2 ⟨t.choice, hchoice t ht, ho⟩)
  have hbinds : ∀ o ∈ (l.map Twins.choice').flatMap Choice.occurrences,
      (b.get? o.1).isSome ∧ o.2.makeAt pick'.cell = b.get? o.1 := by
    intro o ho
    rw [List.flatMap_map, List.mem_flatMap] at ho
    obtain ⟨t, ht, ho⟩ := ho
    apply (hdrawn t ht).holds_view.2 o ho
  have hconcur : ∀ v x, b.get? v = some x
      → Concur pick.cell x (Assignment.mapsAt (choices.flatMap Choice.occurrences) v) := by
    intro v x hx
    obtain ⟨a, ha, hcondition⟩ := h.agree
    apply concur_of_binds hclear _ ha hcondition h.binds hx
    intro c hc
    exact ⟨h.perm.mem_iff.1 (List.mem_map_of_mem hc), h.candidate c hc⟩
  refine ⟨pick', ?_, ?_, hbinds, ?_⟩
  · intro n
    have htaken : ∀ t ∈ l.take n, t.map.Readable ∧ t.candidate.relation.Holds db pick := by
      intro t ht
      have ht := List.mem_of_mem_take ht
      exact ⟨(hreadable t ht).2, h.holds _ (hchoice t ht)⟩
    rw [← List.map_take]
    apply exists_moved_assignment (fun t ht => hmoved t (List.mem_of_mem_take ht)) htaken
      (fun t ht => hchoice t (List.mem_of_mem_take ht)) hconcur
    intro o ho
    apply hbinds o
    obtain ⟨c, hc, ho⟩ := List.mem_flatMap.1 ho
    rw [List.map_take] at hc
    apply List.mem_flatMap.2 ⟨c, List.mem_of_mem_take hc, ho⟩
  · rw [List.forall_mem_map]
    intro t ht
    apply (hdrawn t ht).holds_view.1
  · intro v hv
    obtain ⟨u, hu⟩ := h.binds.2 v hv
    obtain ⟨c, hc, hu⟩ := List.mem_flatMap.1 hu
    obtain ⟨t, ht, rfl⟩ := List.mem_map.1 (hperm.mem_iff.2 hc)
    obtain ⟨w, hw, -⟩ := t.candidateOf.mem_occurrences_iff.1 hu
    use w.rename (Column.view t.number')
    rw [List.flatMap_map, List.mem_flatMap]
    use t, ht, t.candidateOf'.mem_occurrences_iff.2 ⟨w, hw, rfl⟩

/-- What candidates bind is found in any order of the patterns. -/
theorem Bound.yields (h : Bound db maps patterns b choices pick)
    (hclear : Reconcilable maps patterns) (hpatterns : patterns.Perm patterns')
    (hmaps : ∀ m ∈ maps, m ∈ maps') (hreadable : ∀ m ∈ maps', m.Readable) (hne : patterns' ≠ [])
    (hsolutions : solutionMaps patterns' maps' = .ok solutions)
    (hrun : ∀ s ∈ solutions, ∃ bs, s.run db = .ok bs) :
  Yields db solutions b
  := by
  have hsound : ∀ m ∈ maps', m.Sound := fun m hm => (hreadable m hm).toSound
  obtain ⟨rfl, -⟩ | ⟨hnone, -⟩ | ⟨found, ordered, hfound, hordered, hall, hmem⟩ :=
    solutionMaps_cases hsolutions
  · contradiction
  · -- one of the patterns would have no candidate
    obtain ⟨p, hp, hselect⟩ := selectPattern?_of_allCandidates hnone
    obtain ⟨c, hc, rfl⟩ := List.mem_map.1 ((h.perm.trans hpatterns).mem_iff.2 hp)
    obtain ⟨m, hm, k, hcandidate⟩ := h.candidate c hc
    exact absurd (hselect m (hmaps m hm)) (hcandidate.selectPattern?_ne_none (h.holds c hc))
  · obtain ⟨hfst, hcandidates, -⟩ := candidatesOf_allCandidates hsound hfound
    have hentries : ∀ e ∈ ordered, CandidatesOf maps' (1 < patterns'.length) e.1 e.2 :=
      fun e he => hcandidates e (hordered.mem_iff.1 he)
    have harranged : (ordered.map (·.1)).Perm patterns := by
      apply (hordered.map _).trans
      rw [hfst]
      apply hpatterns.symm
    obtain ⟨l, hperm, hchooses, hl⟩ := h.exists_twins hmaps hreadable hentries harranged
    obtain ⟨hjoinable, -⟩ := joinable_of_chooses hsound hfound hordered hchooses
    obtain ⟨pick', hassign, hholds, hbinds⟩ := h.exists_pick hclear
      (fun t ht => ⟨hl t ht, hreadable t.map (hl t ht)⟩) hperm hjoinable.apart
    obtain ⟨a, ha, s, hs, he, hbs⟩ :=
      exists_mem_of_chooses hsound hfound hordered hchooses hall hassign hholds hbinds
    have hs := (hmem s).2 ⟨he, a, ha, hs⟩
    obtain ⟨bs, hrun⟩ := hrun s hs
    exact ⟨s, hs, bs, hrun, hbs bs hrun⟩

/-- A binding that is found is found in any order of the patterns and the triple maps. -/
theorem Yields.rearranged {patterns patterns' : List TriplePattern}
    {solutions solutions' : List SolutionMap} (hb : Yields db solutions b)
    (hreadable : ∀ m ∈ maps, m.Readable) (hclear : Reconcilable maps patterns)
    (hpatterns : patterns.Perm patterns') (hmaps : maps.Perm maps')
    (h : solutionMaps patterns maps = .ok solutions)
    (h' : solutionMaps patterns' maps' = .ok solutions')
    (hrun : ∀ s ∈ solutions', ∃ bs, s.run db = .ok bs) :
  Yields db solutions' b
  := by
  by_cases hne : patterns = []
  · subst hne
    obtain rfl := hpatterns.nil_eq
    cases h
    cases h'
    apply hb
  · obtain ⟨choices, pick, hbound⟩ := exists_bound_of_yields hreadable hne h hb
    apply hbound.yields hclear hpatterns (fun m hm => hmaps.mem_iff.1 hm)
      (fun m hm => hreadable m (hmaps.mem_iff.2 hm)) _ h' hrun
    rintro rfl
    apply hne hpatterns.eq_nil

theorem Reconcilable.perm (h : Reconcilable maps patterns) (hpatterns : patterns.Perm patterns')
    (hmaps : maps.Perm maps') :
  Reconcilable maps' patterns'
  := by
  unfold Reconcilable
  simp only [← hpatterns.mem_iff, ← hmaps.mem_iff]
  apply h

/-- The bindings do not depend on the order of the patterns and of the triple maps, as long as all
the queries succeed and the term maps that can give the term of a fixed one can be compared. -/
theorem bindings_rearranged {solutions' : List SolutionMap} (hreadable : ∀ m ∈ maps, m.Readable)
    (hclear : Reconcilable maps patterns) (hpatterns : patterns.Perm patterns')
    (hmaps : maps.Perm maps') (h : solutionMaps patterns maps = .ok solutions)
    (h' : solutionMaps patterns' maps' = .ok solutions')
    (hrun : ∀ s ∈ solutions, ∃ bs, s.run db = .ok bs)
    (hrun' : ∀ s ∈ solutions', ∃ bs, s.run db = .ok bs) (b : Binding) :
  Yields db solutions b ↔ Yields db solutions' b
  := by
  constructor
  · intro hb
    apply hb.rearranged hreadable hclear hpatterns hmaps h h' hrun'
  · intro hb
    apply hb.rearranged _ (hclear.perm hpatterns hmaps) hpatterns.symm hmaps.symm h' h hrun
    intro m hm
    apply hreadable m (hmaps.mem_iff.2 hm)

end

/-! ### Examples -/

/-- Term maps of each kind can be compared if they have one shape. -/
theorem reconcilable_of_isAlike {maps : List TripleMap} {patterns : List TriplePattern}
    (hlower : ∀ m ∈ maps, ∀ t ∈ m.termMaps, t.LowerCase)
    (hshapes : ∀ m ∈ maps, ∀ m' ∈ maps, ∀ t ∈ m.termMaps, ∀ t' ∈ m'.termMaps,
      t.isAlike t' = true) :
  Reconcilable maps patterns
  := by
  have hmake : ∀ {k v x}, (TermMap.typed k v).conditionFor x ≠ .never
      → ∃ text, k.make? text = some x := by
    intro k v x hne
    cases htexts : k.textsOf x with
    | nil =>
      rw [TermMap.conditionFor, htexts] at hne
      exact absurd rfl hne
    | cons text texts =>
      use text
      apply TermKind.make?_of_mem_textsOf
      simp [htexts]
  intro _ _ _ _ p _ m hm p' _ m' hm' v x t t' _ hplace hplace' hne hne'
  have ht := (List.of_mem_zip hplace).2
  have ht' := (List.of_mem_zip hplace').2
  have hshape := hshapes m hm m' hm' t ht t' ht'
  cases t with
  | fixed u => trivial
  | typed k value =>
    cases t' with
    | fixed u => trivial
    | typed k' value' =>
      obtain ⟨a, ha⟩ := hmake hne
      obtain ⟨b, hb⟩ := hmake hne'
      have hk : k = k' := TermKind.eq_of_make? (hlower m hm _ ht) (hlower m' hm' _ ht') ha hb
      intro _
      simpa [TermMap.isAlike, hk] using hshape

/-- The solution maps of patterns that are in the order of the numbers of their candidates. -/
def sortedSolutions? (patterns : List TriplePattern) (maps : List TripleMap) :
    Option (List SolutionMap) := do
  let found ← (allCandidates (1 < patterns.length) maps 0 patterns).toOption.join
  let solutions ← ((found.foldl extendAll [.empty]).mapM Assignment.toSolutionMap).toOption
  if found.Pairwise fun a b => a.2.length ≤ b.2.length then
    return solutions.filter fun s => !s.isEmpty
  else none

theorem solutionMaps_of_sortedSolutions? {maps : List TripleMap} {patterns : List TriplePattern}
    {solutions : List SolutionMap} (hpatterns : patterns ≠ [])
    (h : sortedSolutions? patterns maps = some solutions) :
  solutionMaps patterns maps = .ok solutions
  := by
  simp only [sortedSolutions?, Option.bind_eq_bind, Option.bind_eq_some_iff, Option.join_eq_some_iff,
    Option.pure_def, Option.ite_none_right_eq_some, Option.some.injEq] at h
  obtain ⟨found, hfound, solutions, hsolutions, hsorted, rfl⟩ := h
  have hlist : candidateList patterns maps = found := by
    rw [candidateList, hfound]
    rfl
  rw [← hlist] at hfound hsorted hsolutions
  apply solutionMaps_of_pairwise hpatterns hfound hsorted hsolutions

/-- The patterns have solution maps that can all be run and give a binding. -/
def isYielded (db : Database) (patterns : List TriplePattern) (maps : List TripleMap)
    (b : Binding) : Bool :=
  (sortedSolutions? patterns maps).any fun solutions =>
    (solutions.all fun s => (s.run db).toOption.isSome)
      && solutions.any fun s => (s.run db).toOption.any fun bs => b ∈ bs

theorem exists_yields_of_isYielded {db : Database} {maps : List TripleMap}
    {patterns : List TriplePattern} {b : Binding} (hpatterns : patterns ≠ [])
    (h : isYielded db patterns maps b = true) :
  ∃ solutions, solutionMaps patterns maps = .ok solutions
    ∧ (∀ s ∈ solutions, ∃ bs, s.run db = .ok bs) ∧ Yields db solutions b
  := by
  obtain ⟨solutions, hsolutions, h⟩ := (Option.any_eq_true _ _).1 h
  simp only [Bool.and_eq_true, List.all_eq_true, List.any_eq_true, Option.any_eq_true] at h
  obtain ⟨hrun, s, hs, bs, hbs, hb⟩ := h
  use solutions, solutionMaps_of_sortedSolutions? hpatterns hsolutions
  constructor
  · intro s hs
    obtain ⟨bs, hbs⟩ := Option.isSome_iff_exists.1 (hrun s hs)
    use bs, eq_ok_of_toOption hbs
  · exact ⟨s, hs, bs, eq_ok_of_toOption hbs, of_decide_eq_true hb⟩

/-- The pages that the first person has made. -/
def madeMap : TripleMap :=
  .ofRelation (.ofDatabase "db") (.fixed (.iri ⟨"ex:1"⟩)) (.fixed (.iri ⟨"ex:made"⟩))
    (textOf "page" "title")

/-- Persons with a name who know someone and have made a page. -/
def makerPatterns : List TriplePattern :=
  [⟨.variable ⟨"x"⟩, .term (.iri ⟨"ex:name"⟩), .variable ⟨"n"⟩⟩,
    ⟨.variable ⟨"x"⟩, .term (.iri ⟨"ex:knows"⟩), .variable ⟨"y"⟩⟩,
    ⟨.variable ⟨"x"⟩, .term (.iri ⟨"ex:made"⟩), .variable ⟨"m"⟩⟩]

/-- A person, the name, someone who is known and a page. -/
def makerBinding : Binding :=
  .ofList [(⟨"x"⟩, .iri ⟨"ex:1"⟩), (⟨"n"⟩, .literal (.simple "Ann")), (⟨"y"⟩, .iri ⟨"ex:2"⟩),
    (⟨"m"⟩, .literal (.simple "Home"))]

theorem readable_madeMap :
  ∀ m ∈ [nameMap, knowsMap, titleMap, madeMap], m.Readable
  := by
  have hsound : (Relation.ofDatabase "db").Sound := ⟨rfl, rfl, rfl, fun _ hj => nomatch hj⟩
  intro m hm
  by_cases hmade : m = madeMap
  · rw [hmade]
    apply TripleMap.readable_ofRelation hsound .always
  · apply (readable_friendsDatabase m _).1
    simp_all

theorem bindings_rearranged_makerPatterns :
  (∀ m ∈ [nameMap, knowsMap, madeMap], m.Readable)
    ∧ Reconcilable [nameMap, knowsMap, madeMap] makerPatterns
    ∧ ∃ solutions solutions', solutionMaps makerPatterns [nameMap, knowsMap, madeMap] = .ok solutions
      ∧ solutionMaps makerPatterns.reverse [madeMap, nameMap, knowsMap] = .ok solutions'
      ∧ (∀ s ∈ solutions, ∃ bs, s.run friendsDatabase = .ok bs)
      ∧ (∀ s ∈ solutions', ∃ bs, s.run friendsDatabase = .ok bs)
      ∧ Yields friendsDatabase solutions makerBinding
      ∧ ∀ b, Yields friendsDatabase solutions b ↔ Yields friendsDatabase solutions' b
  := by
  have hreadable : ∀ m ∈ [nameMap, knowsMap, madeMap], m.Readable := by
    intro m hm
    apply readable_madeMap
    simp only [List.mem_cons] at hm ⊢
    tauto
  have hlower : ∀ m ∈ [nameMap, knowsMap, madeMap], ∀ t ∈ m.termMaps, t.LowerCase := by
    simp [nameMap, knowsMap, madeMap, personIri, textOf, TripleMap.ofRelation, TripleMap.termMaps,
      TermMap.LowerCase, TermKind.LowerCase, TermKind.string]
  have hclear : Reconcilable [nameMap, knowsMap, madeMap] makerPatterns := by
    apply reconcilable_of_isAlike hlower
    decide
  have hyielded : isYielded friendsDatabase makerPatterns [nameMap, knowsMap, madeMap] makerBinding := by
    decide
  have hyielded' : isYielded friendsDatabase makerPatterns.reverse [madeMap, nameMap, knowsMap]
      makerBinding := by
    decide
  obtain ⟨solutions, h, hrun, hb⟩ := exists_yields_of_isYielded (by decide) hyielded
  obtain ⟨solutions', h', hrun', -⟩ := exists_yields_of_isYielded (by decide) hyielded'
  refine ⟨hreadable, hclear, solutions, solutions', h, h', hrun, hrun', hb, ?_⟩
  apply bindings_rearranged hreadable hclear (List.reverse_perm _).symm _ h h' hrun hrun'
  decide

/-- Persons with a page who have a name and have made a page. -/
def pagePatterns : List TriplePattern :=
  [⟨.variable ⟨"x"⟩, .term (.iri ⟨"ex:title"⟩), .variable ⟨"t"⟩⟩,
    ⟨.variable ⟨"x"⟩, .term (.iri ⟨"ex:name"⟩), .variable ⟨"n"⟩⟩,
    ⟨.variable ⟨"x"⟩, .term (.iri ⟨"ex:made"⟩), .variable ⟨"m"⟩⟩]

/-- A person, the title of a page about the person, the name and a page of the person. -/
def pageBinding : Binding :=
  .ofList [(⟨"x"⟩, .iri ⟨"ex:1"⟩), (⟨"t"⟩, .literal (.simple "Home")),
    (⟨"n"⟩, .literal (.simple "Ann")), (⟨"m"⟩, .literal (.simple "Home"))]

/-- If the fixed term map comes last, a binding is missed that is found if it comes first. -/
theorem bindings_differ_pagePatterns :
  (∀ m ∈ [titleMap, nameMap, madeMap], m.Readable)
    ∧ pagePatterns.Perm pagePatterns.reverse
    ∧ solutionMaps pagePatterns [titleMap, nameMap, madeMap] = .ok []
    ∧ ¬ Yields friendsDatabase [] pageBinding
    ∧ ∃ solutions, solutionMaps pagePatterns.reverse [titleMap, nameMap, madeMap] = .ok solutions
      ∧ (∀ s ∈ solutions, ∃ bs, s.run friendsDatabase = .ok bs)
      ∧ Yields friendsDatabase solutions pageBinding
  := by
  have hreadable : ∀ m ∈ [titleMap, nameMap, madeMap], m.Readable := by
    intro m hm
    apply readable_madeMap
    simp only [List.mem_cons] at hm ⊢
    tauto
  have hnone : (sortedSolutions? pagePatterns [titleMap, nameMap, madeMap]).any List.isEmpty := by
    decide
  obtain ⟨solutions, hsolutions, hempty⟩ := (Option.any_eq_true _ _).1 hnone
  obtain rfl := List.isEmpty_iff.1 hempty
  have hyielded : isYielded friendsDatabase pagePatterns.reverse [titleMap, nameMap, madeMap]
      pageBinding := by
    decide
  use hreadable, (List.reverse_perm _).symm
  refine ⟨?_, ?_, exists_yields_of_isYielded (by decide) hyielded⟩
  · apply solutionMaps_of_sortedSolutions? (by decide) hsolutions
  · rintro ⟨s, hs, -⟩
    cases hs

end RelGraph.Mapping
