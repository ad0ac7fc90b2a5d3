import RelGraph.Proofs.Mapping.Bgp
import RelGraph.Proofs.Sql.Places

/-!
# Bindings without repetitions

A solution map of some patterns gives no binding twice, although it does not read the columns of
positions with a term, and of a variable with several occurrences it reads the columns of one
occurrence only: the terms of all positions are known from the binding, and if different cells give
different terms, the rows of the triple maps are known as well.  A solution map that is unique reads
each row of its triple maps from one place only.
-/

namespace RelGraph.Mapping

open Rdf Sql

/-! ### Cells that are known from the terms -/

/-- Rows of the given kind with different cells give different texts. -/
def ValueMap.Separates (rows : Row → Prop) (v : ValueMap) : Prop :=
  ∀ row row', rows row → rows row' → ∀ text, v.fill? row = some text → v.fill? row' = some text
    → ∀ c ∈ v.columns, row.get? c = row'.get? c

/-- Rows of the given kind with different cells give different terms. -/
def TermMap.Separates (rows : Row → Prop) : TermMap → Prop
  | .fixed _ => True
  | .typed kind v => kind.isInjective = true ∧ v.Separates rows

/-- Texts that can be cut in one way only come from the same cells. -/
theorem ValueMap.separates_of_unambiguous {rows : Row → Prop} {v : ValueMap}
    (h : ∀ row, rows row → v.Unambiguous row) :
  v.Separates rows
  := by
  intro row row' hrow hrow' text htext htext' c hc
  apply get?_eq_of_truthOn_conditionFor (truthOn_conditionFor_of_fill? (h row hrow) htext)
    (truthOn_conditionFor_of_fill? (h row' hrow') htext') hc

theorem TermMap.separates_of_unambiguous {rows : Row → Prop} {t : TermMap}
    (hinjective : t.isInjective = true) (h : ∀ row, rows row → t.Unambiguous row) :
  t.Separates rows
  := by
  cases t with
  | fixed u => trivial
  | typed kind v => exact ⟨hinjective, ValueMap.separates_of_unambiguous h⟩

theorem TermMap.Separates.get?_eq {rows : Row → Prop} {t : TermMap} (h : t.Separates rows)
    {row row' : Row} (hrow : rows row) (hrow' : rows row') {u : Term}
    (hmake : t.make? row = some u) (hmake' : t.make? row' = some u) {c : Column}
    (hc : c ∈ t.columns) :
  row.get? c = row'.get? c
  := by
  cases t with
  | fixed x => simp [columns] at hc
  | typed kind v =>
    obtain ⟨text, htext, hu⟩ := Option.bind_eq_some_iff.1 hmake
    obtain ⟨text', htext', hu'⟩ := Option.bind_eq_some_iff.1 hmake'
    obtain rfl := TermKind.eq_of_isInjective h.1 hu hu'
    apply h.2 row row' hrow hrow' text htext htext' c hc

namespace TripleMap

/-- The row is that of a pick in the triple map. -/
def IsRow (db : Database) (m : TripleMap) (row : Row) : Prop :=
  ∃ pick, m.relation.Holds db pick ∧ row = Row.sample m.relation.projections pick.cell

/-- A triple map that says so gives each row once, and rows with different cells give different
terms. -/
structure Separated (db : Database) (m : TripleMap) : Prop where
  unique : m.relation.unique = true → ∃ rows, db.answer ⟨m.relation⟩ = .ok rows ∧ rows.Nodup
  terms : ∀ t ∈ m.termMaps, t.Separates (m.IsRow db)

variable {db : Database} {m : TripleMap} {p : TriplePattern} {b : Binding}

/-- The row is known from the terms of a pattern. -/
theorem Separated.row_eq (h : m.Separated db) (hm : m.Readable) {pick pick' : Pick}
    (hpick : m.relation.Holds db pick) (hpick' : m.relation.Holds db pick')
    (hterms : m.Instantiates (Row.sample m.relation.projections pick.cell) p b)
    (hterms' : m.Instantiates (Row.sample m.relation.projections pick'.cell) p b) :
  Row.sample m.relation.projections pick.cell = Row.sample m.relation.projections pick'.cell
  := by
  rw [Row.sample, Row.sample]
  congr 2
  apply List.map_congr_left
  intro c hc
  rw [← get?_sample_of_mem pick.cell hc, ← get?_sample_of_mem pick'.cell hc]
  rw [hm.made.mem_projections_iff hpick.isEmpty_eq_false, columns, List.mem_flatMap] at hc
  obtain ⟨t, ht, hc⟩ := hc
  have hseparates := h.terms t ht
  rw [termMaps_eq m p, List.mem_map] at ht
  obtain ⟨q, hq, rfl⟩ := ht
  obtain ⟨u, hu⟩ := Option.isSome_iff_exists.1 (hterms q hq).1
  apply hseparates.get?_eq ⟨pick, hpick, rfl⟩ ⟨pick', hpick', rfl⟩ hu _ hc
  rw [(hterms' q hq).2, ← (hterms q hq).2, hu]

end TripleMap

/-! ### Places of the triple maps -/

namespace TripleMap.CandidateOf

variable {db : Database} {m c : TripleMap} {p : TriplePattern} {k : Option Nat}

/-- The place in the tables of the triple map. -/
def placeOf (m : TripleMap) (k : Option Nat) (i : Place) : Place := fun t =>
  if t ∈ m.relation.tables then i (t.view k) else 0

variable (h : m.CandidateOf p k c) {aliases : Aliases}
  (htableOf : ∀ t ∈ c.relation.tables, aliases.tableOf t = c.relation.aliases.tableOf t)

include h htableOf

theorem tableOf_view {t : Table} (ht : t ∈ m.relation.tables) :
  aliases.tableOf (t.view k) = m.relation.aliases.tableOf t
  := by
  rw [htableOf _ ((h.tables _).2 ⟨t, ht, rfl⟩), h.tableOf t ht]

/-- At this place are the records that are read. -/
theorem rowAt_placeOf (hm : m.Readable) (i : Place) :
  m.relation.rowAt db (placeOf m k i)
    = Row.sample m.relation.projections ((db.pickAt aliases i).view k).cell
  := Relation.rowAt_under (fun _ ht => h.tableOf_view htableOf ht) hm.sound i

theorem placeOf_mem (hm : m.Readable) {ts : List Table} (hts : ts.Nodup)
    (hsub : ∀ t ∈ c.relation.tables, t ∈ ts) {i : Place} (hi : i ∈ db.places aliases ts)
    (hholds : m.relation.Holds db ((db.pickAt aliases i).view k)) {rows : List Row}
    {places : List Place} (hread : m.relation.ReadFrom db rows places) :
  placeOf m k i ∈ places
  := by
  have htableOf' : ∀ t ∈ m.relation.tables,
      aliases.tableOf (t.view k) = m.relation.aliases.tableOf t :=
    fun _ ht => h.tableOf_view htableOf ht
  rw [hread.mem_iff]
  constructor
  · apply Relation.under_mem_places htableOf' hts _ hi
    intro t ht
    apply hsub _ ((h.tables _).2 ⟨t, ht, rfl⟩)
  · apply (Relation.holds_under_iff htableOf' hm.sound i).2 hholds

end TripleMap.CandidateOf

/-! ### The bindings of a solution map -/

namespace Assignment

section

variable {db : Database} {maps : List TripleMap} {choices : List Choice} {a : Assignment}
  {s : SolutionMap} {b : Binding} {pick pick' : Pick} {c : Choice} {m : TripleMap}
  {k : Option Nat}
  (h : SolutionOf choices a s)
  (hagrees : AgreesAll (choices.flatMap Choice.occurrences) a.condition a.compared)

include h hagrees

/-- A pick that gives a binding has rows of the triple maps with the terms of the patterns. -/
theorem SolutionOf.instantiates (hc : c ∈ choices) (hcandidate : m.CandidateOf c.1 k c.2)
    (hm : m.Readable) (hpick : s.relation.Holds db pick)
    (hb : s.make? (Row.sample s.relation.projections pick.cell) = some b) :
  m.relation.Holds db (pick.view k)
    ∧ m.Instantiates (Row.sample m.relation.projections (pick.view k).cell) c.1 b
  := by
  obtain ⟨hholds, hcondition⟩ := (h.holds db pick).1 hpick
  rw [h.make?_eq_some_iff hagrees hcondition] at hb
  constructor
  · apply ((hcandidate.holds db pick).1 (hholds c hc)).1
  · apply hcandidate.instantiates hm (hholds c hc)
    intro o ho
    apply hb.1 o (List.mem_flatMap.2 ⟨c, hc, ho⟩)

/-- Picks that give the same binding have the same rows of the triple maps. -/
theorem SolutionOf.view_eq (hc : c ∈ choices) (hcandidate : m.CandidateOf c.1 k c.2)
    (hm : m.Readable) (hseparated : m.Separated db) (hpick : s.relation.Holds db pick)
    (hpick' : s.relation.Holds db pick')
    (hb : s.make? (Row.sample s.relation.projections pick.cell) = some b)
    (hb' : s.make? (Row.sample s.relation.projections pick'.cell) = some b) :
  Row.sample m.relation.projections (pick.view k).cell
    = Row.sample m.relation.projections (pick'.view k).cell
  := by
  obtain ⟨hholds, hterms⟩ := h.instantiates hagrees hc hcandidate hm hpick hb
  obtain ⟨hholds', hterms'⟩ := h.instantiates hagrees hc hcandidate hm hpick' hb'
  apply hseparated.row_eq hm hholds hholds' hterms hterms'

variable (hmaps : ∀ m ∈ maps, m.Readable ∧ m.Separated db)
  (hchoices : ∀ c ∈ choices, ∃ m ∈ maps, ∃ k, m.CandidateOf c.1 k c.2)

include hmaps hchoices

/-- Picks that give the same binding have the same row. -/
theorem SolutionOf.row_eq (hpick : s.relation.Holds db pick) (hpick' : s.relation.Holds db pick')
    (hb : s.make? (Row.sample s.relation.projections pick.cell) = some b)
    (hb' : s.make? (Row.sample s.relation.projections pick'.cell) = some b) :
  Row.sample s.relation.projections pick.cell = Row.sample s.relation.projections pick'.cell
  := by
  rw [Row.sample, Row.sample]
  congr 2
  apply List.map_congr_left
  intro x hx
  rw [h.projections, mem_canonical, SolutionMap.columns, List.mem_flatMap] at hx
  obtain ⟨⟨v, u⟩, he, hx⟩ := hx
  have ho : (v, u) ∈ choices.flatMap Choice.occurrences := by
    obtain hv | hv := SolutionMap.mem_entries_iff.1 he
    · apply h.collected.terms_mem v u hv
    · apply (h.collected.checks_mem _ hv).1
  obtain ⟨c, hc, ho⟩ := List.mem_flatMap.1 ho
  obtain ⟨m, hm, k, hcandidate⟩ := hchoices c hc
  obtain ⟨hreadable, hseparated⟩ := hmaps m hm
  have heq := h.view_eq hagrees hc hcandidate hreadable hseparated hpick hpick' hb hb'
  obtain ⟨t, hq, rfl⟩ := hcandidate.mem_occurrences_iff.1 ho
  rw [TermMap.columns_rename, List.mem_map] at hx
  obtain ⟨y, hy, rfl⟩ := hx
  have hholds := ((hcandidate.holds db pick).1 (((h.holds db pick).1 hpick).1 c hc)).1
  have hholds' := ((hcandidate.holds db pick').1 (((h.holds db pick').1 hpick').1 c hc)).1
  have ht := (List.of_mem_zip hq).2
  rw [Pick.cell_view, Pick.cell_view, ← hreadable.get?_sample hholds ht hy,
    ← hreadable.get?_sample hholds' ht hy, heq]

/-- Places of a unique solution map that give the same binding are the same. -/
theorem SolutionOf.place_eq (hunique : s.relation.unique = true) {i i' : Place}
    (hi : i ∈ db.places s.relation.aliases s.relation.tables)
    (hi' : i' ∈ db.places s.relation.aliases s.relation.tables)
    (hpick : s.relation.Holds db (db.pickAt s.relation.aliases i))
    (hpick' : s.relation.Holds db (db.pickAt s.relation.aliases i'))
    (hb : s.make? (s.relation.rowAt db i) = some b)
    (hb' : s.make? (s.relation.rowAt db i') = some b) :
  i = i'
  := by
  apply Database.eq_of_mem_places s.relation.nodup_tables hi hi'
  intro t ht
  obtain ⟨c, hc, ht⟩ := (h.tables t).1 ht
  obtain ⟨m, hm, k, hcandidate⟩ := hchoices c hc
  obtain ⟨hreadable, hseparated⟩ := hmaps m hm
  obtain ⟨u, hu, rfl⟩ := (hcandidate.tables t).1 ht
  -- the places in the tables of the triple map have the same row, which is there only once
  have hown : m.relation.unique = true := by
    rw [← hcandidate.unique]
    apply h.unique.1 hunique c hc
  obtain ⟨rows, hrows, hnodup⟩ := hseparated.unique hown
  obtain ⟨places, hread⟩ := Relation.exists_readFrom hreadable.sound hrows
  rw [(hread.perm hown).nodup_iff] at hnodup
  have hsub : ∀ t ∈ c.2.relation.tables, t ∈ s.relation.tables :=
    fun t ht => (h.tables t).2 ⟨c, hc, ht⟩
  have htableOf := h.tableOf c hc
  have hmem := hcandidate.placeOf_mem htableOf hreadable s.relation.nodup_tables hsub hi
    (h.instantiates hagrees hc hcandidate hreadable hpick hb).1 hread
  have hmem' := hcandidate.placeOf_mem htableOf hreadable s.relation.nodup_tables hsub hi'
    (h.instantiates hagrees hc hcandidate hreadable hpick' hb').1 hread
  have heq := List.inj_on_of_nodup_map hnodup hmem hmem' (by
    rw [hcandidate.rowAt_placeOf htableOf hreadable, hcandidate.rowAt_placeOf htableOf hreadable]
    apply h.view_eq hagrees hc hcandidate hreadable hseparated hpick hpick' hb hb')
  simpa [TripleMap.CandidateOf.placeOf, hu] using congrFun heq u

/-- A solution map gives no binding twice. -/
theorem SolutionOf.nodup_run {bs : List Binding} (hrun : s.run db = .ok bs) :
  bs.Nodup
  := by
  obtain ⟨rows, hrows, rfl⟩ := map_eq_ok.1 hrun
  obtain ⟨places, hread⟩ := Relation.exists_readFrom h.sound hrows
  by_cases hunique : s.relation.unique = true
  · have hperm := (hread.perm hunique).filterMap s.make?
    rw [hperm.nodup_iff, List.filterMap_map, List.Nodup, List.pairwise_filterMap]
    apply hread.nodup.imp_of_mem
    intro i i' hi hi' hne b hb b' hb' hbb'
    subst hbb'
    obtain ⟨hi, hpick⟩ := (hread.mem_iff i).1 hi
    obtain ⟨hi', hpick'⟩ := (hread.mem_iff i').1 hi'
    apply hne
    apply h.place_eq hagrees hmaps hchoices hunique hi hi' hpick hpick' hb hb'
  · rw [List.Nodup, List.pairwise_filterMap]
    apply (hread.distinct (by simpa using hunique)).imp_of_mem
    intro row row' hrow hrow' hne b hb b' hb' hbb'
    subst hbb'
    obtain ⟨i, hi, rfl⟩ := hread.mem row hrow
    obtain ⟨i', hi', rfl⟩ := hread.mem row' hrow'
    apply hne
    apply h.row_eq hagrees hmaps hchoices ((hread.mem_iff i).1 hi).2 ((hread.mem_iff i').1 hi').2
      hb hb'

end

end Assignment

section

variable {db : Database} {maps : List TripleMap} {patterns : List TriplePattern}
  {solutions : List SolutionMap}

/-- No solution map of some patterns gives a binding twice, and all of them can be run if the
database has their tables. -/
theorem nodup_of_solutionMaps (hmaps : ∀ m ∈ maps, m.Readable ∧ m.Separated db)
    (h : solutionMaps patterns maps = .ok solutions) :
  ∀ s ∈ solutions, (∀ bs, s.run db = .ok bs → bs.Nodup)
    ∧ (db.Rectangular → (∀ m ∈ maps, m.relation.Fits db) → ∃ bs, s.run db = .ok bs)
  := by
  have hreadable : ∀ m ∈ maps, m.Readable := fun m hm => (hmaps m hm).1
  obtain ⟨rfl, rfl⟩ | ⟨hnone, rfl⟩ | ⟨found, ordered, hfound, hordered, hall, hsolutions⟩ :=
    solutionMaps_cases h
  · intro s hs
    rw [List.mem_singleton.1 hs, run_trivial]
    constructor
    · intro bs hbs
      cases hbs
      apply List.nodup_singleton
    · intro _ _
      exact ⟨_, rfl⟩
  · simp
  · intro s hs
    obtain ⟨he, a, ha, hs⟩ := (hsolutions s).1 hs
    constructor
    · intro bs hbs
      obtain ⟨choices, hchooses, ha⟩ := Assignment.exists_chooses_of_mem_found ha
      obtain ⟨hjoinable, -⟩ := joinable_of_chooses (fun m hm => (hreadable m hm).toSound) hfound
        hordered hchooses
      apply (Assignment.solutionOf_toSolutionMap hjoinable ha hs he).nodup_run
        (Assignment.agreesAll_of_ofChoices? ha).2 hmaps (hjoinable.candidateOf hreadable) hbs
    · intro hdb hfits
      obtain ⟨bs, hbs, -⟩ := exists_run_of_mem hdb (fun m hm => ⟨hreadable m hm, hfits m hm⟩)
        hfound hordered ha hs he
      use bs

end

/-! ### An example -/

/-- Persons with the same name. -/
def namesakePatterns : List TriplePattern :=
  [⟨.variable ⟨"x"⟩, .term (.iri ⟨"ex:name"⟩), .variable ⟨"n"⟩⟩,
    ⟨.variable ⟨"y"⟩, .term (.iri ⟨"ex:name"⟩), .variable ⟨"n"⟩⟩]

theorem separated_nameMap :
  nameMap.Separated friendsDatabase
  := by
  constructor
  · intro _
    have hrows : ((friendsDatabase.answer ⟨nameMap.relation⟩).toOption.any fun rows =>
        rows.Nodup) = true := by
      decide
    obtain ⟨rows, hrows, hnodup⟩ := (Option.any_eq_true _ _).1 hrows
    exact ⟨rows, eq_ok_of_toOption hrows, of_decide_eq_true hnodup⟩
  · intro t ht
    have hinjective : ∀ t ∈ nameMap.termMaps, t.isInjective = true := by
      decide
    apply TermMap.separates_of_unambiguous (hinjective t ht)
    intro row _
    apply (clear_friendsDatabase nameMap (by simp) t ht).2

theorem nodup_of_solutionMaps_namesakePatterns :
  (∀ m ∈ [nameMap], m.Readable ∧ m.Separated friendsDatabase)
    ∧ ∃ solutions, solutionMaps namesakePatterns [nameMap] = .ok solutions ∧ solutions ≠ []
      ∧ ∀ s ∈ solutions, s.relation.unique = true
        ∧ ∃ bs, s.run friendsDatabase = .ok bs ∧ bs.Nodup
  := by
  have hmaps : ∀ m ∈ [nameMap], m.Readable ∧ m.Separated friendsDatabase := by
    simp only [List.mem_singleton, forall_eq]
    exact ⟨(readable_friendsDatabase nameMap (by simp)).1, separated_nameMap⟩
  have hsome : ((((candidateList namesakePatterns [nameMap]).foldl extendAll [.empty]).mapM
      Assignment.toSolutionMap).toOption.any fun solutions =>
        (solutions.filter fun s => !s.isEmpty) ≠ [] ∧ ∀ s ∈ solutions, s.relation.unique) = true := by
    decide
  obtain ⟨solutions, hsome, hunique⟩ := (Option.any_eq_true _ _).1 hsome
  obtain ⟨hne, hunique⟩ := of_decide_eq_true hunique
  have hsolutions := solutionMaps_of_pairwise (by decide) (by decide) (by decide)
    hsome
  have h := nodup_of_solutionMaps hmaps hsolutions
  refine ⟨hmaps, _, hsolutions, hne, ?_⟩
  intro s hs
  obtain ⟨bs, hbs⟩ := (h s hs).2 rectangular_friendsDatabase fun m hm =>
    (readable_friendsDatabase m (by simp [List.mem_singleton.1 hm])).2
  exact ⟨hunique s (List.mem_of_mem_filter hs), bs, hbs, (h s hs).1 bs hbs⟩

end RelGraph.Mapping
