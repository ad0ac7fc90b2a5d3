import RelGraph.Proofs.Mapping.Assignment
import RelGraph.Proofs.Sql.Places

/-!
# Solutions of basic graph patterns

The bindings that the solution maps of some triple patterns give are the solutions of the patterns:
each pattern has a triple map and a row of it that gives the terms of the pattern.  All the bindings
are solutions.  All the solutions are among the bindings if the texts of the term maps can be told
apart and the term maps of a variable can be compared.
-/

namespace RelGraph.Mapping

open Rdf Sql

variable {maps : List TripleMap} {patterns : List TriplePattern} {db : Database} {b : Binding}
  {pick : Pick}

/-- The term of a position under a binding. -/
def Position.under (b : Binding) : Position → Option Term
  | .term t => some t
  | .variable v => b.get? v

/-- The row is one of the rows of the triple map. -/
def TripleMap.HasRow (db : Database) (m : TripleMap) (row : Row) : Prop :=
  ∃ rows, db.answer ⟨m.relation⟩ = .ok rows ∧ row ∈ rows

/-- The row has the terms of the pattern under the binding. -/
def TripleMap.Instantiates (m : TripleMap) (row : Row) (p : TriplePattern) (b : Binding) : Prop :=
  ∀ q ∈ m.places p, (q.2.make? row).isSome ∧ q.2.make? row = Position.under b q.1

/-- The binding has the variables of the patterns, and each pattern has a row with its terms. -/
structure Solution (db : Database) (maps : List TripleMap) (patterns : List TriplePattern)
    (b : Binding) : Prop where
  domain : ∀ v, (b.get? v).isSome ↔ ∃ p ∈ patterns, v ∈ p.variableList
  rows : ∀ p ∈ patterns, ∃ m ∈ maps, ∃ row, m.HasRow db row ∧ m.Instantiates row p b

/-- The bindings of the rows of a solution map. -/
def SolutionMap.run (db : Database) (s : SolutionMap) : Except DatabaseError (List Binding) :=
  (fun rows => rows.filterMap s.make?) <$> db.answer ⟨s.relation⟩

/-! ### Rows and picks -/

namespace TripleMap

variable {m : TripleMap} {p : TriplePattern}

theorem Sound.get?_sample (hm : m.Sound) (hpick : m.relation.Holds db pick) {t : TermMap}
    (ht : t ∈ m.termMaps) {c : Column} (hc : c ∈ t.columns) :
  (Row.sample m.relation.projections pick.cell).get? c = pick.cell c
  := by
  apply get?_sample_of_mem
  rw [hm.made.mem_projections_iff hpick.isEmpty_eq_false, columns, List.mem_flatMap]
  use t

/-- The columns of the term maps are columns of tables that are read. -/
theorem Sound.table_mem (hm : m.Sound) (hpick : m.relation.Holds db pick) {t : TermMap}
    (ht : t ∈ m.termMaps) {c : Column} (hc : c ∈ t.columns) :
  c.table ∈ m.relation.tables
  := by
  apply hm.sound.mem_tables
  rw [Relation.mem_columnList_iff, hm.made.mem_projections_iff hpick.isEmpty_eq_false, columns,
    List.mem_flatMap]
  exact .inr (.inr (.inl ⟨t, ht, hc⟩))

theorem Sound.make?_sample (hm : m.Sound) (hpick : m.relation.Holds db pick) {t : TermMap}
    (ht : t ∈ m.termMaps) :
  t.make? (Row.sample m.relation.projections pick.cell) = t.makeAt pick.cell
  := TermMap.make?_eq_makeAt fun _ => hm.get?_sample hpick ht

/-- The rows of a triple map are those of the picks in it. -/
theorem Sound.hasRow_iff (hm : m.Sound) (hfits : m.relation.Fits db) (hdb : db.Rectangular)
    {row : Row} :
  m.HasRow db row
    ↔ ∃ pick, m.relation.Holds db pick ∧ row = Row.sample m.relation.projections pick.cell
  := by
  obtain ⟨rows, hrows, hmem⟩ := Relation.exists_answer hm.sound hfits hdb
  rw [← hmem]
  constructor
  · rintro ⟨rows', hrows', hrow⟩
    rw [hrows] at hrows'
    cases hrows'
    apply hrow
  · intro hrow
    use rows

theorem mem_variableList_iff {v : Variable} :
  v ∈ p.variableList ↔ ∃ t, (.variable v, t) ∈ m.places p
  := by
  have hpositions : p.positions = (m.places p).map (·.1) := rfl
  rw [TriplePattern.variableList, hpositions, List.filterMap_map, List.mem_filterMap]
  constructor
  · rintro ⟨⟨x, t⟩, hq, hv⟩
    cases x with
    | term u => cases hv
    | _ =>
      cases hv
      use t
  · rintro ⟨t, hq⟩
    use (.variable v, t), hq
    rfl

/-- A pick in a candidate gives a row with the terms of the pattern. -/
theorem CandidateOf.instantiates {k : Option Nat} {c : TripleMap} (h : m.CandidateOf p k c)
    (hm : m.Readable) (hpick : c.relation.Holds db pick) (hb : ∀ o ∈ Choice.occurrences (p, c),
      (b.get? o.1).isSome ∧ o.2.makeAt pick.cell = b.get? o.1) :
  m.Instantiates (Row.sample m.relation.projections (pick.view k).cell) p b
  := by
  obtain ⟨hholds, hcondition⟩ := (h.holds db pick).1 hpick
  rw [holdsAt_conditionFor_iff] at hcondition
  rintro ⟨x, t⟩ hq
  rw [hm.make?_sample hholds (List.of_mem_zip hq).2]
  cases x with
  | term u =>
    rw [TermMap.makeAt_of_holdsAt (hcondition u t hq)]
    exact ⟨rfl, rfl⟩
  | _ v =>
    obtain ⟨hsome, hmake⟩ := hb _ (h.mem_occurrences_iff.2 ⟨t, hq, rfl⟩)
    rw [TermMap.makeAt_view] at hmake
    rw [hmake]
    exact ⟨hsome, rfl⟩

section

variable {c : Choice} {k : Option Nat} (h : m.OutlineOf c.1 k c.2) {v : Variable} {u : TermMap}
  (hu : (v, u) ∈ c.occurrences)

include h hu

theorem OutlineOf.lowerCase (hlower : ∀ t ∈ m.termMaps, t.LowerCase) :
  u.LowerCase
  := by
  obtain ⟨t, hq, rfl⟩ := h.mem_occurrences_iff.1 hu
  apply TermMap.lowerCase_rename (hlower t (List.of_mem_zip hq).2)

/-- The term maps of a candidate are unambiguous on a pick if those of the triple map are on the
row. -/
theorem OutlineOf.unambiguousAt (hm : m.Sound) (hpick : m.relation.Holds db (pick.view k))
    (hclear : ∀ t ∈ m.termMaps,
      t.Unambiguous (Row.sample m.relation.projections (pick.view k).cell)) :
  u.UnambiguousAt pick.cell
  := by
  obtain ⟨t, hq, rfl⟩ := h.mem_occurrences_iff.1 hu
  have ht := (List.of_mem_zip hq).2
  apply TermMap.unambiguousAt_view
  apply TermMap.unambiguousAt_of_row fun _ => hm.get?_sample hpick ht
  apply hclear t ht

end

end TripleMap

section

variable {choices : List Choice}

theorem mem_variables_iff (hchoices : ∀ c ∈ choices, ∃ m ∈ maps, ∃ k, m.CandidateOf c.1 k c.2)
    (hpatterns : ∀ p, p ∈ patterns ↔ ∃ c ∈ choices, c.1 = p) {v : Variable} :
  (∃ p ∈ patterns, v ∈ p.variableList) ↔ ∃ m, (v, m) ∈ choices.flatMap Choice.occurrences
  := by
  simp only [List.mem_flatMap]
  constructor
  · rintro ⟨p, hp, hv⟩
    obtain ⟨⟨p, c⟩, hc, rfl⟩ := (hpatterns p).1 hp
    obtain ⟨m, -, k, hcandidate⟩ := hchoices _ hc
    obtain ⟨t, ht⟩ := (TripleMap.mem_variableList_iff (m := m)).1 hv
    exact ⟨_, _, hc, hcandidate.mem_occurrences_iff.2 ⟨t, ht, rfl⟩⟩
  · rintro ⟨u, ⟨p, c⟩, hc, ho⟩
    obtain ⟨m, -, k, hcandidate⟩ := hchoices _ hc
    obtain ⟨t, ht, -⟩ := hcandidate.mem_occurrences_iff.1 ho
    use p, (hpatterns p).2 ⟨_, hc, rfl⟩, TripleMap.mem_variableList_iff.2 ⟨t, ht⟩

/-- What the occurrences of candidates bind on a common pick is a solution. -/
theorem solution_of_binds (hdb : db.Rectangular)
    (hmaps : ∀ m ∈ maps, m.Readable ∧ m.relation.Fits db)
    (hchoices : ∀ c ∈ choices, ∃ m ∈ maps, ∃ k, m.CandidateOf c.1 k c.2)
    (hpatterns : ∀ p, p ∈ patterns ↔ ∃ c ∈ choices, c.1 = p)
    (hholds : ∀ c ∈ choices, c.2.relation.Holds db pick)
    (hb : Assignment.Binds (choices.flatMap Choice.occurrences) pick.cell b) :
  Solution db maps patterns b
  := by
  constructor
  · intro v
    rw [mem_variables_iff hchoices hpatterns]
    constructor
    · apply hb.2
    · rintro ⟨m, hm⟩
      apply (hb.1 _ hm).1
  · intro p hp
    obtain ⟨⟨p, c⟩, hc, rfl⟩ := (hpatterns p).1 hp
    obtain ⟨m, hm, k, hcandidate⟩ := hchoices _ hc
    obtain ⟨hreadable, hfits⟩ := hmaps m hm
    use m, hm, Row.sample m.relation.projections (pick.view k).cell
    constructor
    · rw [hreadable.hasRow_iff hfits hdb]
      use pick.view k, ((hcandidate.holds db pick).1 (hholds _ hc)).1
    · apply hcandidate.instantiates hreadable (hholds _ hc)
      intro o ho
      apply hb.1 o (List.mem_flatMap.2 ⟨_, hc, ho⟩)

end

/-! ### The bindings of a solution map -/

section

variable {choices : List Choice} {a : Assignment} {s : SolutionMap}

/-- The solution map of an assignment gives what the occurrences bind on the common picks on which
they agree. -/
theorem Assignment.SolutionOf.mem_run_iff (h : SolutionOf choices a s)
    (hagrees : AgreesAll (choices.flatMap Choice.occurrences) a.condition a.compared)
    {bs : List Binding} (hrun : s.run db = .ok bs) :
  b ∈ bs ↔ ∃ pick, (∀ c ∈ choices, c.2.relation.Holds db pick)
    ∧ Expr.HoldsAt pick.cell a.condition
    ∧ Binds (choices.flatMap Choice.occurrences) pick.cell b
  := by
  obtain ⟨rows, hrows, rfl⟩ := map_eq_ok.1 hrun
  rw [List.mem_filterMap]
  simp only [Relation.mem_answer_iff h.sound hrows, h.holds]
  constructor
  · rintro ⟨row, ⟨pick, ⟨hpick, hcondition⟩, rfl⟩, hb⟩
    exact ⟨pick, hpick, hcondition, (h.make?_eq_some_iff hagrees hcondition).1 hb⟩
  · rintro ⟨pick, hpick, hcondition, hb⟩
    exact ⟨_, ⟨pick, ⟨hpick, hcondition⟩, rfl⟩, (h.make?_eq_some_iff hagrees hcondition).2 hb⟩

theorem Assignment.SolutionOf.exists_run (h : SolutionOf choices a s) (hdb : db.Rectangular)
    (hfits : ∀ c ∈ choices, c.2.relation.Fits db) :
  ∃ bs, s.run db = .ok bs
  := by
  obtain ⟨rows, hrows, -⟩ := Relation.exists_answer h.sound (h.fits db hfits) hdb
  use rows.filterMap s.make?
  rw [SolutionMap.run, hrows]
  rfl

end

/-! ### Picks of a solution -/

/-- A pick that gives the terms of a pattern in a triple map of which a candidate was chosen. -/
structure Drawn (db : Database) (maps : List TripleMap) (b : Binding) (c : Choice) (m : TripleMap)
    (k : Option Nat) (pick : Pick) : Prop where
  mem : m ∈ maps
  candidate : m.CandidateOf c.1 k c.2
  holds : m.relation.Holds db pick
  condition : Expr.HoldsAt pick.cell (m.conditionFor c.1)
  terms : ∀ q ∈ m.places c.1,
    (q.2.makeAt pick.cell).isSome ∧ q.2.makeAt pick.cell = Position.under b q.1

section

variable {c : Choice} {m : TripleMap} {k : Option Nat} {pick' : Pick}

/-- Whether a pick is drawn depends on its records for the tables of the triple map. -/
theorem Drawn.congr (hm : m.Readable) (h : Drawn db maps b c m k pick)
    (hpick : ∀ t ∈ m.relation.tables, pick t = pick' t) :
  Drawn db maps b c m k pick'
  := by
  have hcells : ∀ t ∈ m.termMaps, ∀ x ∈ t.columns, pick.cell x = pick'.cell x := by
    intro t ht x hx
    rw [Pick.cell, Pick.cell, hpick _ (hm.table_mem h.holds ht hx)]
  constructor
  · apply h.mem
  · apply h.candidate
  · apply h.holds.congr hm.sound hpick
  · have hcondition := h.condition
    rw [TripleMap.holdsAt_conditionFor_iff] at hcondition ⊢
    intro u t hq
    have ht := (List.of_mem_zip hq).2
    rw [← Expr.holdsAt_congr fun x hx => hcells t ht x (t.readsOnly_conditionFor u x hx)]
    apply hcondition u t hq
  · intro q hq
    rw [← TermMap.makeAt_congr (hcells q.2 (List.of_mem_zip hq).2)]
    apply h.terms q hq

/-- The pick is in the candidate, and the occurrences have the terms of the binding. -/
theorem Drawn.holds_view (h : Drawn db maps b c m k (pick.view k)) :
  c.2.relation.Holds db pick ∧ ∀ o ∈ Choice.occurrences c,
    (b.get? o.1).isSome ∧ o.2.makeAt pick.cell = b.get? o.1
  := by
  constructor
  · rw [h.candidate.holds]
    use h.holds, h.condition
  · rintro ⟨v, u⟩ ho
    obtain ⟨t, hq, rfl⟩ := h.candidate.mem_occurrences_iff.1 ho
    obtain ⟨hsome, hmake⟩ := h.terms _ hq
    rw [Position.under] at hmake
    rw [TermMap.makeAt_view, hmake, ← hmake]
    exact ⟨hsome, rfl⟩

/-- Picks for candidates without common tables are put together. -/
theorem exists_common_pick (hmaps : ∀ m ∈ maps, m.Readable) {choices : List Choice}
    (hdrawn : ∀ c ∈ choices, ∃ m k pick, Drawn db maps b c m k pick)
    (hapart : (choices.map fun c => c.2.relation).Pairwise Relation.Apart) :
  ∃ pick : Pick, ∀ c ∈ choices, ∃ m k, Drawn db maps b c m k (pick.view k)
  := by
  have hnonempty : Nonempty TripleMap :=
    ⟨.ofRelation .empty (.fixed (.iri ⟨""⟩)) (.fixed (.iri ⟨""⟩)) (.fixed (.iri ⟨""⟩))⟩
  choose! m k pick hdrawn using hdrawn
  obtain ⟨common, hcommon⟩ := TripleMap.exists_common_view (fun c hc => (hdrawn c hc).candidate.toViewOf)
    (List.pairwise_map.1 hapart) pick fun _ => []
  use common
  intro c hc
  use m c, k c
  apply (hdrawn c hc).congr (hmaps _ (hdrawn c hc).mem)
  intro t ht
  apply (hcommon c hc t ht).symm

end

/-! ### Solutions are found -/

/-- The texts of the term maps can be told apart, and the term maps at occurrences of a variable can
be compared where they give the same term. -/
structure Distinguishable (db : Database) (maps : List TripleMap) (patterns : List TriplePattern) :
    Prop where
  lowerCase : ∀ m ∈ maps, ∀ t ∈ m.termMaps, t.LowerCase
  unambiguous : ∀ m ∈ maps, ∀ row, m.HasRow db row → ∀ t ∈ m.termMaps, t.Unambiguous row
  comparable : ∀ p ∈ patterns, ∀ p' ∈ patterns, ∀ m ∈ maps, ∀ m' ∈ maps, ∀ v t t',
    (.variable v, t) ∈ m.places p → (.variable v, t') ∈ m'.places p'
      → ∀ row row', m.HasRow db row → m'.HasRow db row'
        → t.make? row = t'.make? row' → (t.make? row).isSome → t.Comparable t'

section

variable (hdb : db.Rectangular) (hmaps : ∀ m ∈ maps, m.Readable ∧ m.relation.Fits db)
  (hclear : Distinguishable db maps patterns)

include hdb hmaps hclear

/-- Each pattern of a solution has a candidate with a pick for it. -/
theorem exists_drawn (hb : Solution db maps patterns b) {p : TriplePattern} (hp : p ∈ patterns)
    {copies : Bool} {found : List TripleMap} (hfound : CandidatesOf maps copies p found) :
  ∃ c ∈ found, ∃ m k pick, Drawn db maps b (p, c) m k pick
  := by
  obtain ⟨m, hm, row, hrow, hterms⟩ := hb.rows p hp
  obtain ⟨hreadable, hfits⟩ := hmaps m hm
  obtain ⟨pick, hpick, rfl⟩ := (hreadable.hasRow_iff hfits hdb).1 hrow
  have hmake : ∀ q ∈ m.places p,
      (q.2.makeAt pick.cell).isSome ∧ q.2.makeAt pick.cell = Position.under b q.1 := by
    intro q hq
    rw [← hreadable.make?_sample hpick (List.of_mem_zip hq).2]
    apply hterms q hq
  have hcondition : Expr.HoldsAt pick.cell (m.conditionFor p) := by
    rw [TripleMap.holdsAt_conditionFor_iff]
    intro u t hq
    have ht := (List.of_mem_zip hq).2
    apply TermMap.holdsAt_of_makeAt (hclear.lowerCase m hm t ht) _ (hmake _ hq).2
    apply TermMap.unambiguousAt_of_row (fun _ => hreadable.get?_sample hpick ht)
    apply hclear.unambiguous m hm _ hrow t ht
  obtain hnone | ⟨c, hc, k, hcandidate⟩ := hfound.all m hm
  · exact absurd ⟨hpick.condition, hcondition⟩
      (TripleMap.not_holdsAt_of_selectPattern? hnone pick.cell)
  · exact ⟨c, hc, m, k, pick, hm, hcandidate.candidateOf hreadable, hpick, hcondition, hmake⟩

theorem exists_chooses (hb : Solution db maps patterns b) {copies : Bool}
    {found : List (TriplePattern × List TripleMap)}
    (hfound : ∀ e ∈ found, e.1 ∈ patterns ∧ CandidatesOf maps copies e.1 e.2) :
  ∃ choices, Assignment.Chooses found choices
    ∧ ∀ c ∈ choices, ∃ m k pick, Drawn db maps b c m k pick
  := by
  induction found with
  | nil => exact ⟨[], .nil, by simp⟩
  | cons e found ih =>
    rw [List.forall_mem_cons] at hfound
    obtain ⟨choices, hchooses, hdrawn⟩ := ih hfound.2
    obtain ⟨c, hc, hpick⟩ := exists_drawn hdb hmaps hclear hb hfound.1.1 hfound.1.2
    exact ⟨(e.1, c) :: choices, .cons ⟨rfl, hc⟩ hchooses, List.forall_mem_cons.2 ⟨hpick, hdrawn⟩⟩

omit hclear in
theorem Drawn.hasRow {c : Choice} {m : TripleMap} {k : Option Nat}
    (h : Drawn db maps b c m k pick) :
  m.HasRow db (Row.sample m.relation.projections pick.cell)
  := by
  obtain ⟨hreadable, hfits⟩ := hmaps m h.mem
  rw [hreadable.hasRow_iff hfits hdb]
  use pick, h.holds

section

variable {c c' : Choice} {m m' : TripleMap} {k k' : Option Nat} {v : Variable} {u u' : TermMap}

/-- The term maps at the occurrences are unambiguous on the pick. -/
theorem Drawn.clear (h : Drawn db maps b c m k (pick.view k)) (hu : (v, u) ∈ c.occurrences) :
  u.LowerCase ∧ u.UnambiguousAt pick.cell
  := by
  use h.candidate.lowerCase hu (hclear.lowerCase m h.mem)
  apply h.candidate.unambiguousAt hu (hmaps m h.mem).1.toSound h.holds
  apply hclear.unambiguous m h.mem _ (h.hasRow hdb hmaps)

/-- The term maps at two occurrences of a variable give the same term, so that they can be
compared. -/
theorem Drawn.comparable (h : Drawn db maps b c m k (pick.view k))
    (h' : Drawn db maps b c' m' k' (pick.view k')) (hc : c.1 ∈ patterns) (hc' : c'.1 ∈ patterns)
    (hu : (v, u) ∈ c.occurrences) (hu' : (v, u') ∈ c'.occurrences) :
  u.Comparable u'
  := by
  obtain ⟨t, hq, rfl⟩ := h.candidate.mem_occurrences_iff.1 hu
  obtain ⟨t', hq', rfl⟩ := h'.candidate.mem_occurrences_iff.1 hu'
  apply TermMap.Comparable.rename
  apply hclear.comparable c.1 hc c'.1 hc' m h.mem m' h'.mem v t t' hq hq' _ _
    (h.hasRow hdb hmaps) (h'.hasRow hdb hmaps)
  · rw [(hmaps m h.mem).1.make?_sample h.holds (List.of_mem_zip hq).2,
      (hmaps m' h'.mem).1.make?_sample h'.holds (List.of_mem_zip hq').2, (h.terms _ hq).2,
      (h'.terms _ hq').2]
  · rw [(hmaps m h.mem).1.make?_sample h.holds (List.of_mem_zip hq).2]
    apply (h.terms _ hq).1

end

/-- Candidates with a common pick for a solution can agree. -/
theorem exists_assignment {choices : List Choice} (hpatterns : ∀ c ∈ choices, c.1 ∈ patterns)
    (hdrawn : ∀ c ∈ choices, ∃ m k, Drawn db maps b c m k (pick.view k)) :
  ∃ a, Assignment.ofChoices? choices = some a ∧ Expr.HoldsAt pick.cell a.condition
  := by
  have hoccurrence : ∀ v u, (v, u) ∈ choices.flatMap Choice.occurrences
      → ∃ c ∈ choices, (v, u) ∈ c.occurrences ∧ ∃ m k, Drawn db maps b c m k (pick.view k) := by
    intro v u hu
    obtain ⟨c, hc, hu⟩ := List.mem_flatMap.1 hu
    exact ⟨c, hc, hu, hdrawn c hc⟩
  apply Assignment.exists_ofChoices?
  rintro ⟨v, u⟩ hu
  obtain ⟨c, hc, hu, m, k, hdraw⟩ := hoccurrence v u hu
  obtain ⟨x, hx⟩ := Option.isSome_iff_exists.1 (hdraw.holds_view.2 _ hu).1
  apply Assignment.exists_agreement? (t := x)
  · intro u' hu'
    obtain ⟨c', -, hu', m', k', hdraw'⟩ := hoccurrence v u' hu'
    apply (hdraw'.clear hdb hmaps hclear hu').1
  · intro u' hu'
    obtain ⟨c', -, hu', m', k', hdraw'⟩ := hoccurrence v u' hu'
    apply (hdraw'.clear hdb hmaps hclear hu').2
  · intro u₁ u₂ hu₁ hu₂
    obtain ⟨c₁, hc₁, hu₁, m₁, k₁, hdraw₁⟩ := hoccurrence v u₁ hu₁
    obtain ⟨c₂, hc₂, hu₂, m₂, k₂, hdraw₂⟩ := hoccurrence v u₂ hu₂
    apply hdraw₁.comparable hdb hmaps hclear hdraw₂ (hpatterns c₁ hc₁) (hpatterns c₂ hc₂) hu₁ hu₂
  · intro u' hu'
    obtain ⟨c', -, hu', m', k', hdraw'⟩ := hoccurrence v u' hu'
    rw [(hdraw'.holds_view.2 _ hu').2, hx]

end

/-! ### The solution maps of some patterns -/

section

variable {found : List (TriplePattern × List TripleMap)} {choices : List Choice}

/-- Candidates that are chosen for all the patterns can be joined. -/
theorem joinable_of_chooses (hmaps : ∀ m ∈ maps, m.Sound)
    (h : allCandidates (1 < patterns.length) maps 0 patterns = .ok (some found))
    {ordered : List (TriplePattern × List TripleMap)} (hordered : ordered.Perm found)
    (hchooses : Assignment.Chooses ordered choices) :
  Assignment.Joinable maps choices ∧ ∀ p, p ∈ patterns ↔ ∃ c ∈ choices, c.1 = p
  := by
  obtain ⟨hpatterns, hcandidates, hapart⟩ := candidatesOf_allCandidates hmaps h
  have hmem : ∀ p, p ∈ patterns ↔ ∃ c ∈ choices, c.1 = p := by
    intro p
    rw [← hpatterns, ← (hordered.map (·.1)).mem_iff, ← hchooses.map_fst, List.mem_map]
  have hcandidate : ∀ c ∈ choices, ∃ m ∈ maps, ∃ k,
      m.IsCandidate c.1 k c.2 ∧ (1 < patterns.length → k.isSome) := by
    intro c hc
    obtain ⟨e, he, hfst, hc⟩ := hchooses.exists_mem hc
    obtain ⟨m, hm, k, hk, hcandidate⟩ := (hcandidates e (hordered.mem_iff.1 he)).mem c.2 hc
    rw [← hfst] at hcandidate
    use m, hm, k, hcandidate
    intro hlength
    rw [hk, decide_eq_true hlength]
  have hlength : choices.length = patterns.length := by
    have hfst := congrArg List.length hchooses.map_fst
    rw [List.length_map, List.length_map] at hfst
    rw [← hpatterns, List.length_map, hfst, hordered.length_eq]
  refine ⟨⟨hmaps, ?_, ?_, ?_⟩, hmem⟩
  · intro c hc
    obtain ⟨m, hm, k, hcandidate, -⟩ := hcandidate c hc
    use m, hm, k
  · by_cases hmany : 1 < patterns.length
    · apply hchooses.pairwise_apart
      apply (hordered.pairwise_iff _).2 (hapart (by simpa using hmany))
      intro e e' hee' c hc c' hc'
      apply (hee' c' hc' c hc).symm
    · obtain _ | ⟨c, _ | ⟨c', cs⟩⟩ := choices
      · exact .nil
      · exact List.pairwise_singleton _ _
      · simp only [List.length_cons] at hlength
        omega
  · by_cases hmany : 1 < patterns.length
    · right
      intro c hc
      obtain ⟨m, hm, k, hcandidate, hk⟩ := hcandidate c hc
      apply (hcandidate.outlineOf (hmaps m hm)).aliased (hk hmany)
    · left
      omega

/-- The solution maps are those of the assignments of candidates that have solutions. -/
theorem solutionMaps_cases {solutions : List SolutionMap}
    (h : solutionMaps patterns maps = .ok solutions) :
  (patterns = [] ∧ solutions = [.trivial])
    ∨ (allCandidates (1 < patterns.length) maps 0 patterns = .ok none ∧ solutions = [])
    ∨ ∃ found, ∃ ordered : List (TriplePattern × List TripleMap),
        allCandidates (1 < patterns.length) maps 0 patterns = .ok (some found)
        ∧ ordered.Perm found
        ∧ (∀ a ∈ ordered.foldl extendAll [.empty], ∃ s, a.toSolutionMap = .ok s)
        ∧ ∀ s, s ∈ solutions ↔ s.isEmpty = false
          ∧ ∃ a ∈ ordered.foldl extendAll [.empty], a.toSolutionMap = .ok s
  := by
  unfold solutionMaps at h
  split at h
  · rename_i hempty
    left
    cases h
    use List.isEmpty_iff.1 hempty
  · right
    obtain ⟨result, hresult, h⟩ := bind_eq_ok.1 h
    cases result with
    | none =>
      left
      use hresult, (pure_eq_ok.1 h).symm
    | some found =>
      right
      obtain ⟨all, hall, h⟩ := bind_eq_ok.1 h
      obtain ⟨hsome, hmem⟩ := mem_of_mapM_eq_ok hall
      refine ⟨found, _, hresult, List.mergeSort_perm _ _, hsome, ?_⟩
      intro s
      rw [← pure_eq_ok.1 h, List.mem_filter, hmem, and_comm]
      simp

theorem run_trivial (db : Database) :
  SolutionMap.trivial.run db = .ok [Binding.empty]
  := rfl

theorem solution_nil_iff :
  Solution db maps [] b ↔ b = Binding.empty
  := by
  constructor
  · intro h
    apply Binding.ext
    intro v
    rw [Binding.get?_empty, ← Option.not_isSome_iff_eq_none, h.domain]
    simp
  · rintro rfl
    constructor
    · simp
    · simp

section

variable (hmaps : ∀ m ∈ maps, m.Sound)
  (hfound : allCandidates (1 < patterns.length) maps 0 patterns = .ok (some found))
  {ordered : List (TriplePattern × List TripleMap)} (hordered : ordered.Perm found)
  (hchooses : Assignment.Chooses ordered choices)

include hmaps hfound hordered hchooses

/-- The solution map of an assignment of candidates gives what their occurrences bind. -/
theorem mem_run_iff_of_chooses {a : Assignment} (ha : Assignment.ofChoices? choices = some a)
    {s : SolutionMap} (hs : a.toSolutionMap = .ok s) (he : s.isEmpty = false) {bs : List Binding}
    (hrun : s.run db = .ok bs) :
  b ∈ bs ↔ ∃ pick, (∀ c ∈ choices, c.2.relation.Holds db pick)
    ∧ Expr.HoldsAt pick.cell a.condition
    ∧ Assignment.Binds (choices.flatMap Choice.occurrences) pick.cell b
  := by
  obtain ⟨hjoinable, -⟩ := joinable_of_chooses hmaps hfound hordered hchooses
  apply (Assignment.solutionOf_toSolutionMap hjoinable ha hs he).mem_run_iff
    (Assignment.agreesAll_of_ofChoices? ha).2 hrun

/-- What candidates bind on a pick is found if the occurrences in each of the first ones agree. -/
theorem exists_mem_of_chooses
    (hall : ∀ a ∈ ordered.foldl extendAll [.empty], ∃ s, a.toSolutionMap = .ok s)
    (hassign : ∀ n, ∃ a, Assignment.ofChoices? (choices.take n) = some a
      ∧ Expr.HoldsAt pick.cell a.condition) (hholds : ∀ c ∈ choices, c.2.relation.Holds db pick)
    (hbinds : Assignment.Binds (choices.flatMap Choice.occurrences) pick.cell b) :
  ∃ a ∈ ordered.foldl extendAll [.empty], ∃ s, a.toSolutionMap = .ok s ∧ s.isEmpty = false
    ∧ ∀ bs, s.run db = .ok bs → b ∈ bs
  := by
  obtain ⟨hjoinable, -⟩ := joinable_of_chooses hmaps hfound hordered hchooses
  obtain ⟨a, ha, hcondition⟩ := hassign choices.length
  rw [List.take_length] at ha
  have hchosen : a ∈ ordered.foldl extendAll [.empty] := by
    apply Assignment.mem_of_chooses (b := .empty) (List.mem_singleton_self _) hchooses _ rfl ha
    intro n
    obtain ⟨a, ha, -⟩ := hassign n
    rw [Option.isSome_iff_exists]
    use a, ha
  obtain ⟨s, hs⟩ := hall a hchosen
  have he : s.isEmpty = false := by
    by_contra he
    apply Assignment.not_holds_of_isEmpty hjoinable ha hs (by simpa using he) db pick
    use hholds
  use a, hchosen, s, hs, he
  intro bs hrun
  rw [mem_run_iff_of_chooses hmaps hfound hordered hchooses ha hs he hrun]
  use pick, hholds

end

section

variable (hdb : db.Rectangular) (hmaps : ∀ m ∈ maps, m.Readable ∧ m.relation.Fits db)
  (hfound : allCandidates (1 < patterns.length) maps 0 patterns = .ok (some found))
  {ordered : List (TriplePattern × List TripleMap)} (hordered : ordered.Perm found)

include hdb hmaps hfound hordered

theorem exists_run_of_mem {a : Assignment} (ha : a ∈ ordered.foldl extendAll [.empty])
    {s : SolutionMap} (hs : a.toSolutionMap = .ok s) (he : s.isEmpty = false) :
  ∃ bs, s.run db = .ok bs ∧ ∀ b ∈ bs, Solution db maps patterns b
  := by
  have hsound : ∀ m ∈ maps, m.Sound := fun m hm => (hmaps m hm).1.toSound
  obtain ⟨choices, hchooses, ha⟩ := Assignment.exists_chooses_of_mem_found ha
  obtain ⟨hjoinable, hpatterns⟩ := joinable_of_chooses hsound hfound hordered hchooses
  have hcandidates := hjoinable.candidateOf fun m hm => (hmaps m hm).1
  have hfits : ∀ c ∈ choices, c.2.relation.Fits db := by
    intro c hc
    obtain ⟨m, hm, k, hcandidate⟩ := hcandidates c hc
    apply hcandidate.fits db (hmaps m hm).2
  obtain ⟨bs, hbs⟩ := (Assignment.solutionOf_toSolutionMap hjoinable ha hs he).exists_run hdb hfits
  use bs, hbs
  intro b hb
  obtain ⟨pick, hholds, -, hbinds⟩ :=
    (mem_run_iff_of_chooses hsound hfound hordered hchooses ha hs he hbs).1 hb
  apply solution_of_binds hdb hmaps hcandidates hpatterns hholds hbinds

theorem exists_mem_of_solution (hclear : Distinguishable db maps patterns)
    (hall : ∀ a ∈ ordered.foldl extendAll [.empty], ∃ s, a.toSolutionMap = .ok s)
    (hb : Solution db maps patterns b) :
  ∃ a ∈ ordered.foldl extendAll [.empty], ∃ s, a.toSolutionMap = .ok s ∧ s.isEmpty = false
    ∧ ∃ bs, s.run db = .ok bs ∧ b ∈ bs
  := by
  have hreadable : ∀ m ∈ maps, m.Readable := fun m hm => (hmaps m hm).1
  have hsound : ∀ m ∈ maps, m.Sound := fun m hm => (hreadable m hm).toSound
  obtain ⟨hpatterns, hcandidates, -⟩ := candidatesOf_allCandidates hsound hfound
  have hentries : ∀ e ∈ ordered, e.1 ∈ patterns
      ∧ CandidatesOf maps (1 < patterns.length) e.1 e.2 := by
    intro e he
    have he := hordered.mem_iff.1 he
    refine ⟨?_, hcandidates e he⟩
    rw [← hpatterns]
    apply List.mem_map_of_mem (f := Prod.fst) he
  obtain ⟨choices, hchooses, hdrawn⟩ := exists_chooses hdb hmaps hclear hb hentries
  obtain ⟨hjoinable, hmem⟩ := joinable_of_chooses hsound hfound hordered hchooses
  obtain ⟨pick, hpick⟩ := exists_common_pick hreadable hdrawn hjoinable.apart
  have hassign : ∀ n, ∃ a, Assignment.ofChoices? (choices.take n) = some a
      ∧ Expr.HoldsAt pick.cell a.condition := by
    intro n
    apply exists_assignment hdb hmaps hclear
    · intro c hc
      rw [hmem]
      use c, List.mem_of_mem_take hc
    · intro c hc
      apply hpick c (List.mem_of_mem_take hc)
  have hholds : ∀ c ∈ choices, c.2.relation.Holds db pick := by
    intro c hc
    obtain ⟨m, k, hdraw⟩ := hpick c hc
    apply hdraw.holds_view.1
  have hbinds : Assignment.Binds (choices.flatMap Choice.occurrences) pick.cell b := by
    constructor
    · intro o ho
      obtain ⟨c, hc, ho⟩ := List.mem_flatMap.1 ho
      obtain ⟨m, k, hdraw⟩ := hpick c hc
      apply hdraw.holds_view.2 o ho
    · intro v hv
      rw [hb.domain, mem_variables_iff (hjoinable.candidateOf hreadable) hmem] at hv
      apply hv
  obtain ⟨a, ha, s, hs, he, hbs⟩ :=
    exists_mem_of_chooses hsound hfound hordered hchooses hall hassign hholds hbinds
  obtain ⟨bs, hrun, -⟩ := exists_run_of_mem hdb hmaps hfound hordered ha hs he
  exact ⟨a, ha, s, hs, he, bs, hrun, hbs bs hrun⟩

end

/-- The bindings of the solution maps of some patterns are solutions of the patterns.  All the
solutions are found if the terms can be told apart. -/
theorem solutions_of_solutionMaps (hdb : db.Rectangular)
    (hmaps : ∀ m ∈ maps, m.Readable ∧ m.relation.Fits db) {solutions : List SolutionMap}
    (h : solutionMaps patterns maps = .ok solutions) :
  (∀ s ∈ solutions, ∃ bs, s.run db = .ok bs ∧ ∀ b ∈ bs, Solution db maps patterns b)
    ∧ (Distinguishable db maps patterns → ∀ b, Solution db maps patterns b
      → ∃ s ∈ solutions, ∃ bs, s.run db = .ok bs ∧ b ∈ bs)
  := by
  obtain ⟨rfl, rfl⟩ | ⟨hnone, rfl⟩ | ⟨found, ordered, hfound, hordered, hall, hsolutions⟩ :=
    solutionMaps_cases h
  · -- without patterns, the only solution has no variables
    constructor
    · intro s hs
      rw [List.mem_singleton.1 hs]
      refine ⟨_, run_trivial db, ?_⟩
      intro b hb
      rw [solution_nil_iff, List.mem_singleton.1 hb]
    · intro _ b hb
      refine ⟨_, List.mem_singleton_self _, _, run_trivial db, ?_⟩
      rw [solution_nil_iff.1 hb]
      apply List.mem_singleton_self
  · constructor
    · simp
    · -- one of the patterns has no candidate
      intro hclear b hb
      obtain ⟨p, hp, hall⟩ := selectPattern?_of_allCandidates hnone
      have hcandidates : CandidatesOf maps false p [] := by
        constructor
        · simp
        · intro m hm
          exact .inl (hall m hm)
      obtain ⟨c, hc, -⟩ := exists_drawn hdb hmaps hclear hb hp hcandidates
      cases hc
  · constructor
    · intro s hs
      obtain ⟨he, a, ha, hs⟩ := (hsolutions s).1 hs
      apply exists_run_of_mem hdb hmaps hfound hordered ha hs he
    · intro hclear b hb
      obtain ⟨a, ha, s, hs, he, hrun⟩ :=
        exists_mem_of_solution hdb hmaps hfound hordered hclear hall hb
      exact ⟨s, (hsolutions s).2 ⟨he, a, ha, hs⟩, hrun⟩

end

/-! ### Examples -/

theorem TripleMap.readable_ofRelation {r : Relation} (hr : r.Sound) (hc : r.condition.Built)
    (s p o : TermMap) :
  (ofRelation r s p o).Readable
  := by
  refine ⟨⟨.ofRelation r s p o, ?_⟩, ?_⟩
  · rw [ofRelation, Relation.project]
    split
    · apply Relation.sound_empty
    · exact ⟨hr.limit, hr.limitInverse, hr.isCondition, hr.joins⟩
  · rw [ofRelation, Relation.project]
    split
    · exact .never
    · exact hc

/-- The candidates of all patterns, or nothing. -/
def candidateList (patterns : List TriplePattern) (maps : List TripleMap) :
    List (TriplePattern × List TripleMap) :=
  ((allCandidates (1 < patterns.length) maps 0 patterns).toOption.getD none).getD []

/-- Patterns that are in the order of the numbers of their candidates stay so. -/
theorem solutionMaps_of_pairwise {solutions : List SolutionMap} (hpatterns : patterns ≠ [])
    (hfound : (allCandidates (1 < patterns.length) maps 0 patterns).toOption
      = some (some (candidateList patterns maps)))
    (hsorted : (candidateList patterns maps).Pairwise fun a b => a.2.length ≤ b.2.length)
    (hsolutions : (((candidateList patterns maps).foldl extendAll [.empty]).mapM
      Assignment.toSolutionMap).toOption = some solutions) :
  solutionMaps patterns maps = .ok (solutions.filter fun s => !s.isEmpty)
  := by
  have hmerge : ((candidateList patterns maps).mergeSort fun a b => a.2.length ≤ b.2.length)
      = candidateList patterns maps := by
    apply List.mergeSort_of_pairwise
    simpa using hsorted
  rw [solutionMaps, if_neg (by simpa using hpatterns), eq_ok_of_toOption hfound]
  simp only [bind, Except.bind, hmerge, eq_ok_of_toOption hsolutions]
  rfl

/-- Values of term maps of the same kind have the same shape. -/
def TermMap.isAlike : TermMap → TermMap → Bool
  | .typed k v, .typed l w => k ≠ l || v.sameShape w
  | _, _ => true

/-- Texts can be told apart if each kind of terms has values of one shape. -/
theorem distinguishable_of_isAlike (hlower : ∀ m ∈ maps, ∀ t ∈ m.termMaps, t.LowerCase)
    (hclear : ∀ m ∈ maps, ∀ row, m.HasRow db row → ∀ t ∈ m.termMaps, t.Unambiguous row)
    (hshapes : ∀ m ∈ maps, ∀ m' ∈ maps, ∀ t ∈ m.termMaps, ∀ t' ∈ m'.termMaps,
      t.isAlike t' = true) :
  Distinguishable db maps patterns
  := by
  refine ⟨hlower, hclear, ?_⟩
  intro p _ p' _ m hm m' hm' v t t' hq hq' row row' _ _ hmake hsome
  have ht := (List.of_mem_zip hq).2
  have ht' := (List.of_mem_zip hq').2
  have hshape := hshapes m hm m' hm' t ht t' ht'
  cases t with
  | fixed u => trivial
  | typed k value =>
    cases t' with
    | fixed u => trivial
    | typed k' value' =>
      obtain ⟨u, hu⟩ := Option.isSome_iff_exists.1 hsome
      obtain ⟨x, -, hx⟩ := Option.bind_eq_some_iff.1 hu
      obtain ⟨y, -, hy⟩ := Option.bind_eq_some_iff.1 (hmake.symm.trans hu)
      have hk : k = k' := TermKind.eq_of_make? (hlower m hm _ ht) (hlower m' hm' _ ht') hx hy
      intro _
      simpa [TermMap.isAlike, hk] using hshape

/-- Persons with their names, who knows whom, and pages about persons. -/
def friendsDatabase : Database where
  tables := .ofList [
    (⟨none, "person"⟩, ⟨["id", "name"], [[some "1", some "Ann"], [some "2", some "Bob"]]⟩),
    (⟨none, "knows"⟩, ⟨["a", "b"], [[some "1", some "2"]]⟩),
    (⟨none, "page"⟩, ⟨["about", "title"], [[some "ex:1", some "Home"]]⟩)]
  failsOnClose := false

/-- The IRI of a person, given by a column with its number. -/
def personIri (table name : String) : TermMap :=
  .typed .iri (.template ⟨"ex:", [⟨⟨⟨none, table⟩, name⟩, .plain, ""⟩]⟩)

/-- The text of a column. -/
def textOf (table name : String) : TermMap :=
  .typed .string (.column ⟨⟨none, table⟩, name⟩)

/-- The names of persons. -/
def nameMap : TripleMap :=
  .ofRelation (Relation.ofDatabase "db").asUnique (personIri "person" "id")
    (.fixed (.iri ⟨"ex:name"⟩)) (textOf "person" "name")

/-- Who knows whom. -/
def knowsMap : TripleMap :=
  .ofRelation (.ofDatabase "db") (personIri "knows" "a") (.fixed (.iri ⟨"ex:knows"⟩))
    (personIri "knows" "b")

/-- The titles of pages about persons, whose IRIs are in a column. -/
def titleMap : TripleMap :=
  .ofRelation (.ofDatabase "db") (.typed .iri (.column ⟨⟨none, "page"⟩, "about"⟩))
    (.fixed (.iri ⟨"ex:title"⟩)) (textOf "page" "title")

/-- Persons that know someone with a name. -/
def friendPatterns : List TriplePattern :=
  [⟨.variable ⟨"x"⟩, .term (.iri ⟨"ex:knows"⟩), .variable ⟨"y"⟩⟩,
    ⟨.variable ⟨"y"⟩, .term (.iri ⟨"ex:name"⟩), .variable ⟨"n"⟩⟩]

/-- Persons with a name and a page. -/
def titlePatterns : List TriplePattern :=
  [⟨.variable ⟨"x"⟩, .term (.iri ⟨"ex:name"⟩), .variable ⟨"n"⟩⟩,
    ⟨.variable ⟨"x"⟩, .term (.iri ⟨"ex:title"⟩), .variable ⟨"t"⟩⟩]

theorem rectangular_friendsDatabase :
  friendsDatabase.Rectangular
  := by
  intro t data hdata
  rw [show friendsDatabase.tables = .ofList _ from rfl, SortedMap.get?_ofList] at hdata
  have hmem := SortedMap.mem_of_find? hdata
  simp only [List.mem_reverse, List.mem_cons, List.not_mem_nil, or_false, Prod.mk.injEq] at hmem
  obtain ⟨-, rfl⟩ | ⟨-, rfl⟩ | ⟨-, rfl⟩ := hmem <;> decide

theorem readable_friendsDatabase :
  ∀ m ∈ [nameMap, knowsMap, titleMap], m.Readable ∧ m.relation.Fits friendsDatabase
  := by
  have hfits : ∀ m ∈ [nameMap, knowsMap, titleMap],
      (∀ t ∈ m.relation.tables,
        (friendsDatabase.tables.get? (m.relation.aliases.tableOf t)).isSome)
      ∧ ∀ c ∈ m.relation.columnList,
        ((friendsDatabase.tables.get? (m.relation.aliases.tableOf c.table)).any
          fun data => c.name ∈ data.columns) = true := by
    decide
  have hreadable : ∀ m ∈ [nameMap, knowsMap, titleMap], m.Readable := by
    have hsound : (Relation.ofDatabase "db").Sound := ⟨rfl, rfl, rfl, fun _ hj => nomatch hj⟩
    have hunique : (Relation.ofDatabase "db").asUnique.Sound :=
      ⟨rfl, rfl, rfl, fun _ hj => nomatch hj⟩
    simp only [List.forall_mem_cons]
    use TripleMap.readable_ofRelation hunique .always _ _ _
    use TripleMap.readable_ofRelation hsound .always _ _ _
    use TripleMap.readable_ofRelation hsound .always _ _ _
    simp
  intro m hm
  exact ⟨hreadable m hm, Relation.fits_of_any (hfits m hm).1 (hfits m hm).2⟩

theorem clear_friendsDatabase :
  ∀ m ∈ [nameMap, knowsMap, titleMap], ∀ t ∈ m.termMaps, t.LowerCase ∧ ∀ row, t.Unambiguous row
  := by
  have hiri : ∀ table name, (personIri table name).LowerCase
      ∧ ∀ row, (personIri table name).Unambiguous row := by
    intro table name
    use True.intro
    intro row text _
    apply Template.cutsOnce_singleton
  have htext : ∀ table name, (textOf table name).LowerCase
      ∧ ∀ row, (textOf table name).Unambiguous row :=
    fun _ _ => ⟨True.intro, fun _ => True.intro⟩
  have hfixed : ∀ t, (TermMap.fixed t).LowerCase ∧ ∀ row, (TermMap.fixed t).Unambiguous row :=
    fun _ => ⟨True.intro, fun _ => True.intro⟩
  simp only [List.forall_mem_cons, TripleMap.termMaps]
  refine ⟨⟨hiri _ _, hfixed _, htext _ _, ?_⟩, ⟨hiri _ _, hfixed _, hiri _ _, ?_⟩,
    ⟨⟨True.intro, fun _ => True.intro⟩, hfixed _, htext _ _, ?_⟩, ?_⟩
  all_goals simp

theorem distinguishable_friendPatterns :
  Distinguishable friendsDatabase [nameMap, knowsMap] friendPatterns
  := by
  have hmem : ∀ m ∈ [nameMap, knowsMap], m ∈ [nameMap, knowsMap, titleMap] := by simp
  apply distinguishable_of_isAlike
  · intro m hm t ht
    apply (clear_friendsDatabase m (hmem m hm) t ht).1
  · intro m hm row _ t ht
    apply (clear_friendsDatabase m (hmem m hm) t ht).2
  · decide

instance {m : TripleMap} {row : Row} {p : TriplePattern} {b : Binding} :
    Decidable (m.Instantiates row p b) :=
  inferInstanceAs (Decidable (∀ q ∈ m.places p, _))

theorem solution_ofList {l : List (Variable × Term)}
    (hdomain : ∀ v ∈ l.map (·.1), ∃ p ∈ patterns, v ∈ p.variableList)
    (hvariables : ∀ p ∈ patterns, ∀ v ∈ p.variableList, v ∈ l.map (·.1))
    (hrows : ∀ p ∈ patterns, ∃ m ∈ maps, ((db.answer ⟨m.relation⟩).toOption.any fun rows =>
      rows.any fun row => m.Instantiates row p (.ofList l)) = true) :
  Solution db maps patterns (.ofList l)
  := by
  constructor
  · intro v
    have hbinds : ((Binding.ofList l).get? v).isSome ↔ v ∈ l.map (·.1) := by
      rw [show ((Binding.ofList l).get? v).isSome = (Binding.ofList l).binds v from rfl,
        Binding.binds_ofList, List.mem_map]
      simp
    rw [hbinds]
    constructor
    · apply hdomain v
    · rintro ⟨p, hp, hv⟩
      apply hvariables p hp v hv
  · intro p hp
    obtain ⟨m, hm, hany⟩ := hrows p hp
    obtain ⟨rows, hanswer, hany⟩ := (Option.any_eq_true _ _).1 hany
    obtain ⟨row, hrow, hterms⟩ := List.any_eq_true.1 hany
    exact ⟨m, hm, row, ⟨rows, eq_ok_of_toOption hanswer, hrow⟩, of_decide_eq_true hterms⟩

/-- A person, a friend and the name of the friend. -/
def friendBinding : Binding :=
  .ofList [(⟨"x"⟩, .iri ⟨"ex:1"⟩), (⟨"y"⟩, .iri ⟨"ex:2"⟩), (⟨"n"⟩, .literal (.simple "Bob"))]

theorem solutions_of_solutionMaps_friendPatterns :
  friendsDatabase.Rectangular
    ∧ (∀ m ∈ [nameMap, knowsMap], m.Readable ∧ m.relation.Fits friendsDatabase)
    ∧ Distinguishable friendsDatabase [nameMap, knowsMap] friendPatterns
    ∧ Solution friendsDatabase [nameMap, knowsMap] friendPatterns friendBinding
    ∧ ∃ solutions, solutionMaps friendPatterns [nameMap, knowsMap] = .ok solutions
      ∧ (∀ s ∈ solutions, ∃ bs, s.run friendsDatabase = .ok bs
        ∧ ∀ b ∈ bs, Solution friendsDatabase [nameMap, knowsMap] friendPatterns b)
      ∧ ∃ s ∈ solutions, ∃ bs, s.run friendsDatabase = .ok bs ∧ friendBinding ∈ bs
  := by
  have hmaps : ∀ m ∈ [nameMap, knowsMap], m.Readable ∧ m.relation.Fits friendsDatabase :=
    fun m hm => readable_friendsDatabase m (by simp only [List.mem_cons] at hm ⊢; tauto)
  have hb : Solution friendsDatabase [nameMap, knowsMap] friendPatterns friendBinding := by
    apply solution_ofList <;> decide
  have hsome : (((candidateList friendPatterns [nameMap, knowsMap]).foldl extendAll [.empty]).mapM
      Assignment.toSolutionMap).toOption.isSome := by
    decide
  obtain ⟨solutions, hsome⟩ := Option.isSome_iff_exists.1 hsome
  have hsolutions := solutionMaps_of_pairwise (by decide) (by decide) (by decide)
    hsome
  have h := solutions_of_solutionMaps rectangular_friendsDatabase hmaps hsolutions
  use rectangular_friendsDatabase, hmaps, distinguishable_friendPatterns, hb
  exact ⟨_, hsolutions, h.1, h.2 distinguishable_friendPatterns _ hb⟩

/-- A person, the name and the title of a page. -/
def titleBinding : Binding :=
  .ofList [(⟨"x"⟩, .iri ⟨"ex:1"⟩), (⟨"n"⟩, .literal (.simple "Ann")),
    (⟨"t"⟩, .literal (.simple "Home"))]

/-- An IRI that is read from a column is never compared with one that is written by a template, so
that a solution can be missed. -/
theorem solution_missed_titlePatterns :
  friendsDatabase.Rectangular
    ∧ (∀ m ∈ [nameMap, titleMap], m.Readable ∧ m.relation.Fits friendsDatabase)
    ∧ (∀ m ∈ [nameMap, titleMap], ∀ t ∈ m.termMaps, t.LowerCase ∧ ∀ row, t.Unambiguous row)
    ∧ Solution friendsDatabase [nameMap, titleMap] titlePatterns titleBinding
    ∧ solutionMaps titlePatterns [nameMap, titleMap] = .ok []
  := by
  have hmem : ∀ m ∈ [nameMap, titleMap], m ∈ [nameMap, knowsMap, titleMap] := by
    intro m hm
    simp only [List.mem_cons] at hm ⊢
    tauto
  use rectangular_friendsDatabase, fun m hm => readable_friendsDatabase m (hmem m hm)
  use fun m hm => clear_friendsDatabase m (hmem m hm)
  constructor
  · apply solution_ofList <;> decide
  · have hnone : (((candidateList titlePatterns [nameMap, titleMap]).foldl extendAll
        [.empty]).mapM Assignment.toSolutionMap).toOption = some [] := by
      decide
    apply solutionMaps_of_pairwise (by decide) (by decide) (by decide) hnone

end RelGraph.Mapping
