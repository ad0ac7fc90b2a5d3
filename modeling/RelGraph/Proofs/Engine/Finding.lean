import RelGraph.Engine.Endpoint
import RelGraph.Proofs.Engine.Sharing
import RelGraph.Proofs.Mapping.Restricted

/-!
# Triples with given terms

A search for triples with given terms restricts the triple maps by conditions.  It finds those of all
the triples that have the given terms, each of them once, provided that the term maps are unambiguous
on the rows of the database.
-/

namespace RelGraph.Engine

open Rdf Sql Mapping Machine

/-! ### Triples of restricted maps -/

/-- What a search relies on.  All rows are read, no term map has columns where there is no database,
and only one text of a row stands for a term, so that the term can be found by a condition. -/
structure Findable (db : Database) (m : TripleMap) : Prop where
  made : m.Made
  limit : m.relation.limit = none
  limitInverse : m.relation.limitInverse = none
  database : m.relation.database.isSome ∨ m.columns = []
  lowerCase : ∀ tm ∈ m.termMaps, tm.LowerCase
  unambiguous : ∀ rows, readRows db m.relation = .ok rows
    → ∀ row ∈ rows, ∀ tm ∈ m.termMaps, tm.Unambiguous row

section

variable {db : Database} {m : TripleMap} {s p o : Option Term} {t : Triple}

/-- On the combinations that are read, the condition is known from the row. -/
theorem isTrueOn_conditionFor_iff (hm : m.Made) (he : m.relation.isEmpty = false)
    {P : TriplePattern} {env : Env} (henv : env.Has m.relation.projections) :
  (m.conditionFor P).isTrueOn env = true
    ↔ Expr.truthOn (Database.rowOf m.relation.projections env) (m.conditionFor P) = some true
  := by
  have hreads := hm.readsOnly_conditionFor he P
  rw [Expr.isTrueOn_of_readsOnly (TripleMap.isCondition_conditionFor m P) hreads henv,
    Expr.truthOn_congr]
  intro c hc
  apply (get?_rowOf_of_mem env (hreads c hc)).symm

/-- The restricted map needs none of the columns that it does not read. -/
theorem make?_rowOf_restricted (hm : m.Made) {P : TriplePattern}
    (he : (m.relation.select (m.conditionFor P)).isEmpty = false) (env : Env) :
  (m.restricted P).make? (Database.rowOf (m.restricted P).relation.projections env)
    = (m.restricted P).make? (Database.rowOf m.relation.projections env)
  := by
  apply TripleMap.make?_congr
  intro c hc
  have hc' := (TripleMap.mem_projections_restricted he).2 hc
  rw [get?_rowOf_of_mem env hc', get?_rowOf_of_mem env ((hm.selects_restricted he).2.2 c hc')]

/-- The rows on which the condition is true are those that give triples with the given terms. -/
theorem Findable.make?_restricted_iff (hm : Findable db m) {rows : List Row}
    (hrows : readRows db m.relation = .ok rows) {row : Row} (hrow : row ∈ rows) :
  (Expr.truthOn row (m.conditionFor (TripleMap.patternOf s p o)) = some true
      ∧ (m.restricted (TripleMap.patternOf s p o)).make? row = some t)
    ↔ m.make? row = some t ∧ TripleMap.Has t s p o
  := by
  constructor
  · rintro ⟨htrue, ht⟩
    rw [TripleMap.make?_restricted htrue] at ht
    exact ⟨ht, TripleMap.has_of_truthOn htrue ht⟩
  · rintro ⟨ht, hhas⟩
    have htrue := TripleMap.truthOn_of_has hm.lowerCase (hm.unambiguous rows hrows row hrow) ht hhas
    rw [TripleMap.make?_restricted htrue]
    exact ⟨htrue, ht⟩

/-- The rows of a restricted map give the triples of the map that have the given terms. -/
theorem Findable.mem_restricted_iff (hm : Findable db m)
    (he : (m.relation.select (m.conditionFor (TripleMap.patternOf s p o))).isEmpty = false)
    {rows rows' : List Row} (hrows : readRows db m.relation = .ok rows)
    (hrows' : readRows db (m.restricted (TripleMap.patternOf s p o)).relation = .ok rows') :
  (∃ row ∈ rows', (m.restricted (TripleMap.patternOf s p o)).make? row = some t)
    ↔ ∃ row ∈ rows, m.make? row = some t ∧ TripleMap.Has t s p o
  := by
  have hiff := fun row hrow => @Findable.make?_restricted_iff db m s p o t hm rows hrows row hrow
  have hempty := Relation.isEmpty_eq_false_of_select he
  obtain ⟨hselects, htables, -⟩ := hm.made.selects_restricted he
  rw [readRows, hempty, if_neg Bool.false_ne_true] at hrows
  rw [readRows, TripleMap.isEmpty_restricted he, if_neg Bool.false_ne_true, hselects.database]
    at hrows'
  split at hrows
  · rename_i hdatabase
    rw [if_pos hdatabase] at hrows'
    cases hrows
    cases hrows'
    -- without columns the condition is always true
    have halways : m.conditionFor (TripleMap.patternOf s p o) = .always := by
      apply (TripleMap.isConstant_conditionFor
        (hm.database.resolve_left (by simpa using hdatabase))).resolve_right
      intro hnever
      rw [hnever, TripleMap.isEmpty_select_never] at he
      cases he
    simp only [List.mem_singleton, forall_eq, exists_eq_left] at hiff ⊢
    rw [← hiff, halways]
    simp
  · rename_i hdatabase
    rw [if_neg hdatabase] at hrows'
    obtain ⟨envs, henvs, hhas, rfl⟩ := (Database.answer_eq_ok hm.limit hm.limitInverse).1 hrows
    obtain ⟨envs', henvs', -, rfl⟩ :=
      (Database.answer_eq_ok (hselects.limit.trans hm.limit)
        (hselects.limitInverse.trans hm.limitInverse)).1 hrows'
    have hperm := Database.perm_filter_of_readEnvs htables hselects.aliases hselects.joins
      hselects.isTrueOn henvs henvs'
    simp only [Database.mem_rowsOf, exists_exists_and_eq_and, forall_exists_index, and_imp,
      forall_apply_eq_imp_iff₂, hperm.mem_iff, List.mem_filter] at hiff ⊢
    apply exists_congr
    intro env
    rw [and_assoc, and_congr_right_iff]
    intro henv
    rw [← hiff env henv, isTrueOn_conditionFor_iff hm.made hempty (hhas env henv),
      make?_rowOf_restricted hm.made he]

/-- A map that can not be restricted has no triples with the given terms. -/
theorem Findable.not_has (hm : Findable db m) (hs : m.select? s p o = none) {rows : List Row}
    (hrows : readRows db m.relation = .ok rows) {row : Row} (hrow : row ∈ rows)
    (ht : m.make? row = some t) :
  ¬ TripleMap.Has t s p o
  := by
  intro hhas
  have htrue := ((hm.make?_restricted_iff hrows hrow).2 ⟨ht, hhas⟩).1
  rw [TripleMap.select?_eq, TripleMap.selectPattern?_eq] at hs
  split at hs
  · rename_i he
    rw [readRows] at hrows
    split at hrows
    · cases hrows
      cases hrow
    · rename_i hempty
      rw [Bool.not_eq_true] at hempty
      split at hrows
      · rename_i hdatabase
        -- without columns the condition is always true
        have halways : m.conditionFor (TripleMap.patternOf s p o) = .always := by
          apply (TripleMap.isConstant_conditionFor
            (hm.database.resolve_left (by simpa using hdatabase))).resolve_right
          intro hnever
          rw [hnever] at htrue
          cases htrue
        rw [halways, Relation.select, if_pos rfl, hempty] at he
        cases he
      · obtain ⟨envs, henvs, hhas, rfl⟩ := (Database.answer_eq_ok hm.limit hm.limitInverse).1 hrows
        obtain ⟨env, henv, rfl⟩ := Database.mem_rowsOf.1 hrow
        apply Relation.not_isTrueOn_of_isEmpty_select he env
        use (Database.isTrueOn_fullCondition.1 (Database.isTrueOn_of_mem_readEnvs henvs henv)).2
        apply (isTrueOn_conditionFor_iff hm.made hempty (hhas env henv)).2 htrue
  · cases hs

theorem mem_ownItems_iff {rows : List Row} (h : readRows db m.relation = .ok rows) :
  t ∈ ownItems db m ↔ ∃ row ∈ rows, m.make? row = some t
  := by
  have hitems : itemsOf db m = .ok (rows.filterMap m.make?) := by
    rw [itemsOf_eq, show readRows db (Member.relation m) = _ from h]
    rfl
  rw [ownItems_eq hitems, List.mem_filterMap]

/-- A map and the map that is restricted to the given terms have the same triples with these terms. -/
theorem Findable.mem_select?_iff (hm : Findable db m) {rows : List Row}
    (hrows : readRows db m.relation = .ok rows)
    (h : ∀ m', m.select? s p o = some m' → ∃ rows', readRows db m'.relation = .ok rows') :
  (∃ m', m.select? s p o = some m' ∧ t ∈ ownItems db m')
    ↔ t ∈ ownItems db m ∧ TripleMap.Has t s p o
  := by
  rw [mem_ownItems_iff hrows]
  cases hs : m.select? s p o with
  | none =>
    simp only [reduceCtorEq, false_and, exists_false, false_iff, not_and]
    rintro ⟨row, hrow, ht⟩
    apply hm.not_has hs hrows hrow ht
  | some m' =>
    obtain ⟨rows', hrows'⟩ := h m' hs
    rw [TripleMap.select?_eq, TripleMap.selectPattern?_eq] at hs
    split at hs
    · cases hs
    · rename_i he
      rw [Bool.not_eq_true] at he
      cases hs
      simp only [Option.some.injEq, exists_eq_left']
      rw [mem_ownItems_iff hrows']
      apply (hm.mem_restricted_iff he hrows hrows').trans
      simp only [← and_assoc, exists_and_right]

end

/-! ### Searches -/

namespace Finding

variable {db : Database} {n : Nat}

/-- A step of the scan is passed on, unless it gives a triple that was given. -/
theorem steps_of_scan {t t' : Scan TripleMap Triple Cursor} {e : Event Triple} (seen : List Triple)
    (h : (Scan.memoryMachine TripleMap db n).Steps Live t e t') :
  (machine (memory db) n).Steps Live ⟨t, seen⟩
    (match e with
      | .item (.ok x) => if x ∈ seen then .quiet else e
      | _ => e)
    ⟨t', match e with
      | .item (.ok x) => if x ∈ seen then seen else x :: seen
      | _ => seen⟩
  := by
  intro s hs
  obtain ⟨s', hstep, hs'⟩ := h s hs
  use s'
  simp only [machine, step, show t.step (memory db) n s = _ from hstep]
  refine ⟨?_, hs'⟩
  obtain (f | x) | _ | _ := e
  · rfl
  · by_cases hx : x ∈ seen <;> simp [hx]
  · rfl
  · rfl

/-- The triples of a scan are given once. -/
theorem gives_of_scan {t : Scan TripleMap Triple Cursor} {is : List (Except EvalError Triple)}
    (h : (Scan.memoryMachine TripleMap db n).Gives Live t is) {xs : List Triple}
    (his : is = xs.map .ok) (seen : List Triple) :
  (machine (memory db) n).Gives Live ⟨t, seen⟩ ((Database.dedup seen xs).map .ok)
  := by
  induction h generalizing xs seen with
  | finished hstep hstay =>
    rw [eq_comm, List.map_eq_nil_iff] at his
    subst his
    apply Gives.finished (steps_of_scan seen hstep) (steps_of_scan seen hstay)
  | quiet hstep _ ih => apply Gives.quiet (steps_of_scan seen hstep) (ih his seen)
  | item hstep _ ih =>
    cases xs with
    | nil => cases his
    | cons x xs =>
      cases his
      have hstep := steps_of_scan seen hstep
      rw [Database.dedup]
      by_cases hx : x ∈ seen
      · simp only [hx, if_true] at hstep ⊢
        apply Gives.quiet hstep (ih rfl seen)
      · simp only [hx, if_false] at hstep ⊢
        apply Gives.item hstep (ih rfl (x :: seen))

end Finding

namespace Endpoint

/-- The triple maps that are searched. -/
def selected (e : Endpoint) (s p o : Option Term) : List TripleMap :=
  e.maps.filterMap fun m => m.select? s p o

/-- The queries of a search succeed. -/
def Succeeds (e : Endpoint) (db : Database) (s p o : Option Term) : Prop :=
  ∀ g ∈ Group.ofList (e.selected s p o), ∃ rows, readRows db g.relation = .ok rows

/-- A search on the database in memory gives these triples, and no error. -/
def Finds (e : Endpoint) (db : Database) (s p o : Option Term) (ts : List Triple) : Prop :=
  ∃ f, e.find s p o = .triples (some f)
    ∧ (Finding.machine (memory db) e.fetchSize).Delivers f Store.start (ts.map .ok)

section

variable {e : Endpoint} {db : Database} {s p o : Option Term}

theorem made_of_mem_selected (hmade : ∀ m ∈ e.maps, m.Made) {m : TripleMap}
    (hm : m ∈ e.selected s p o) :
  m.Made
  := by
  obtain ⟨m₀, hm₀, hs⟩ := List.mem_filterMap.1 hm
  apply (hmade m₀ hm₀).select hs

/-- A search whose queries succeed gives the triples of the restricted maps, each of them once. -/
theorem exists_finds (hn : 0 < e.fetchSize) (hmade : ∀ m ∈ e.maps, m.Made)
    (h : e.Succeeds db s p o) :
  (∀ m ∈ e.selected s p o, ∃ rows, readRows db m.relation = .ok rows)
    ∧ ∃ ts, e.Finds db s p o ts ∧ ts.Nodup
      ∧ ∀ t, t ∈ ts ↔ ∃ m ∈ e.selected s p o, t ∈ ownItems db m
  := by
  have hreads : ∀ m ∈ e.selected s p o, Group.ReadsProjections m := by
    intro m hm he row row' hrow
    apply TripleMap.make?_congr
    intro c hc
    apply hrow c (((made_of_mem_selected hmade hm).mem_projections_iff he).2 hc)
  choose! rows hrows using h
  have hanswer : ∀ g ∈ Group.ofList (e.selected s p o), g.answer db = .ok ((rows g).flatMap g.items) := by
    intro g hg
    rw [Group.answer_eq, hrows g hg]
    rfl
  obtain ⟨hitems, hperm⟩ := Group.perm_ownItems_ofList hreads hanswer
  constructor
  · intro m hm
    have hm := hitems m hm
    rw [itemsOf_eq, map_eq_ok] at hm
    obtain ⟨own, hown, -⟩ := hm
    exact ⟨own, hown⟩
  · use Database.dedup [] ((Group.ofList (e.selected s p o)).flatMap fun g => (rows g).flatMap g.items)
    constructor
    · refine ⟨_, rfl, ?_⟩
      apply (Finding.gives_of_scan (Scan.gives_groups hn _) _ []).delivers live_start
      rw [List.map_flatMap]
      apply List.flatMap_congr
      intro g hg
      rw [hanswer g hg, delivered]
    · use Database.nodup_dedup _ _
      intro t
      rw [Database.mem_dedup, hperm.mem_iff, List.mem_flatMap]
      simp

/-- The queries of the maps succeed if those of the search for all triples do. -/
theorem exists_readRows (hmade : ∀ m ∈ e.maps, m.Made)
    (h : ∀ m ∈ e.selected none none none, ∃ rows, readRows db m.relation = .ok rows) :
  ∀ m ∈ e.maps, ∃ rows, readRows db m.relation = .ok rows
  := by
  intro m hm
  cases he : m.relation.isEmpty with
  | true => use [], by rw [readRows, if_pos he]
  | false =>
    apply h
    rw [selected, List.mem_filterMap]
    use m, hm
    rw [(hmade m hm).select?_none, he, if_neg Bool.false_ne_true]

/-- The triples that are searched are those of the maps with the given terms. -/
theorem mem_selected_iff (hmaps : ∀ m ∈ e.maps, Findable db m)
    (h : ∀ m ∈ e.maps, ∃ rows, readRows db m.relation = .ok rows)
    (h' : ∀ m ∈ e.selected s p o, ∃ rows, readRows db m.relation = .ok rows) {t : Triple} :
  (∃ m ∈ e.selected s p o, t ∈ ownItems db m)
    ↔ (∃ m ∈ e.maps, t ∈ ownItems db m) ∧ TripleMap.Has t s p o
  := by
  have hiff : ∀ m ∈ e.maps, (∃ m', m.select? s p o = some m' ∧ t ∈ ownItems db m')
      ↔ t ∈ ownItems db m ∧ TripleMap.Has t s p o := by
    intro m hm
    obtain ⟨rows, hrows⟩ := h m hm
    apply (hmaps m hm).mem_select?_iff hrows
    intro m' hs
    apply h'
    rw [selected, List.mem_filterMap]
    use m, hm
  constructor
  · rintro ⟨m', hm', ht⟩
    obtain ⟨m, hm, hs⟩ := List.mem_filterMap.1 hm'
    obtain ⟨ht, hhas⟩ := (hiff m hm).1 ⟨m', hs, ht⟩
    exact ⟨⟨m, hm, ht⟩, hhas⟩
  · rintro ⟨⟨m, hm, ht⟩, hhas⟩
    obtain ⟨m', hs, ht⟩ := (hiff m hm).2 ⟨ht, hhas⟩
    use m', List.mem_filterMap.2 ⟨m, hm, hs⟩

/-- A search is consistent: it finds those of all the triples that have the given terms, each of them
once. -/
theorem find_consistent (hn : 0 < e.fetchSize) (hmaps : ∀ m ∈ e.maps, Findable db m)
    (hall : e.Succeeds db none none none) (hfound : e.Succeeds db s p o) :
  ∃ all found, e.Finds db none none none all ∧ e.Finds db s p o found ∧ all.Nodup ∧ found.Nodup
    ∧ ∀ t, t ∈ found ↔ t ∈ all ∧ TripleMap.Has t s p o
  := by
  have hmade : ∀ m ∈ e.maps, m.Made := fun m hm => (hmaps m hm).made
  obtain ⟨hrows, all, hdelivers, hnodup, hmem⟩ := exists_finds hn hmade hall
  obtain ⟨hrows', found, hdelivers', hnodup', hmem'⟩ := exists_finds hn hmade hfound
  have hreads := exists_readRows hmade hrows
  use all, found, hdelivers, hdelivers', hnodup, hnodup'
  intro t
  have hhas : TripleMap.Has t none none none := by simp [TripleMap.Has]
  rw [hmem, hmem', mem_selected_iff hmaps hreads hrows, mem_selected_iff hmaps hreads hrows',
    and_iff_left hhas]

theorem finds_of_pullAll {fuel k : Nat} {ts : List Triple}
    (h : ((Finding.machine (memory db) e.fetchSize).pullAll fuel k ⟨.ofMaps (e.selected s p o), []⟩
      Store.start).map (fun r => r.1.map Except.toOption) = some (ts.map some)) :
  e.Finds db s p o ts
  := by
  obtain ⟨⟨is, s'⟩, hpull, his⟩ := Option.map_eq_some_iff.1 h
  refine ⟨_, rfl, ?_⟩
  rw [← eq_map_ok_of_toOption his]
  apply (completes_of_pullAll hpull).delivers

end

/-! ### Examples -/

/-- The names of persons, and the type of those that have a name. -/
def nameEndpoint : Endpoint where
  maps := [.ofRelation (.ofDatabase "db") personTerm (.fixed (.iri ⟨"ex:name"⟩)) nameTerm,
    .ofRelation ((Relation.ofDatabase "db").select (.isNotNull (.column ⟨Plan.personTable, "name"⟩)))
      personTerm (.fixed (.iri ⟨"ex:type"⟩)) (.fixed (.iri ⟨"ex:Person"⟩))]
  convertsFilters := false
  pushesFilters := true
  fetchSize := 2

theorem findable_nameEndpoint :
  ∀ m ∈ nameEndpoint.maps, Findable Plan.personDatabase m
  := by
  have hfindable : ∀ {relation : Relation} {u : Term} {tm : TermMap},
      tm = nameTerm ∨ (∃ v, tm = .fixed v)
      → (TripleMap.ofRelation relation personTerm (.fixed u) tm).relation.limit = none
      → (TripleMap.ofRelation relation personTerm (.fixed u) tm).relation.limitInverse = none
      → (TripleMap.ofRelation relation personTerm (.fixed u) tm).relation.database.isSome
      → Findable Plan.personDatabase (.ofRelation relation personTerm (.fixed u) tm) := by
    intro relation u tm htm hlimit hinverse hdatabase
    constructor
    · apply TripleMap.Made.ofRelation
    · apply hlimit
    · apply hinverse
    · left
      apply hdatabase
    · obtain rfl | ⟨v, rfl⟩ := htm <;>
        simp [TripleMap.ofRelation, TripleMap.termMaps, TermMap.LowerCase, TermKind.LowerCase,
          personTerm, nameTerm, TermKind.string]
    · intro rows _ row _
      have hperson : personTerm.Unambiguous row := by
        intro text _
        apply Template.cutsOnce_singleton
      have hobject : tm.Unambiguous row := by
        obtain rfl | ⟨v, rfl⟩ := htm <;> apply True.intro
      simp only [TripleMap.ofRelation, TripleMap.termMaps, List.forall_mem_cons]
      use hperson, True.intro, hobject
      simp
  simp only [nameEndpoint, List.forall_mem_cons, List.not_mem_nil, false_implies, implies_true,
    and_true]
  constructor
  · apply hfindable (.inl rfl) rfl rfl rfl
  · apply hfindable (.inr ⟨_, rfl⟩) rfl rfl rfl

theorem find_consistent_nameEndpoint :
  0 < nameEndpoint.fetchSize ∧ (∀ m ∈ nameEndpoint.maps, Findable Plan.personDatabase m)
    ∧ nameEndpoint.Succeeds Plan.personDatabase none none none
    ∧ nameEndpoint.Succeeds Plan.personDatabase (some (.iri ⟨"ex:1"⟩)) none none
    ∧ ∃ all found, nameEndpoint.Finds Plan.personDatabase none none none all
      ∧ nameEndpoint.Finds Plan.personDatabase (some (.iri ⟨"ex:1"⟩)) none none found
      ∧ all.Nodup ∧ found.Nodup
      ∧ ∀ t, t ∈ found ↔ t ∈ all ∧ TripleMap.Has t (some (.iri ⟨"ex:1"⟩)) none none
  := by
  have hsucceeds : ∀ {s p o : Option Term},
      ((Group.ofList (nameEndpoint.selected s p o)).all fun g =>
        (readRows Plan.personDatabase g.relation).toOption.isSome) = true
      → nameEndpoint.Succeeds Plan.personDatabase s p o := by
    intro s p o h g hg
    obtain ⟨rows, hrows⟩ := Option.isSome_iff_exists.1 (List.all_eq_true.1 h g hg)
    use rows, eq_ok_of_toOption hrows
  have hall := @hsucceeds none none none (by decide)
  have hfound := @hsucceeds (some (.iri ⟨"ex:1"⟩)) none none (by decide)
  exact ⟨by decide, findable_nameEndpoint, hall, hfound,
    find_consistent (by decide) findable_nameEndpoint hall hfound⟩

/-- The table of the parts. -/
def partTable : Table := ⟨none, "part"⟩

/-- One part, in whose kind there is a dash. -/
def partDatabase : Database where
  tables := .ofList [(partTable, ⟨["kind", "number"], [[some "x-y", some "z"]]⟩)]
  failsOnClose := false

/-- The numbers of parts, whose names are made of their kind and their number. -/
def partEndpoint : Endpoint where
  maps := [.ofRelation (.ofDatabase "db")
    (.typed .iri (.template ⟨"ex:", [⟨⟨partTable, "kind"⟩, .plain, "-"⟩,
      ⟨⟨partTable, "number"⟩, .plain, ""⟩]⟩))
    (.fixed (.iri ⟨"ex:number"⟩)) (.typed .string (.column ⟨partTable, "number"⟩))]
  convertsFilters := false
  pushesFilters := true
  fetchSize := 1

/-- A name that can be cut in two ways is cut at the first dash only, so that the part is not found
by its name. -/
theorem find_missed_partEndpoint :
  partEndpoint.Finds partDatabase none none none
      [⟨.iri ⟨"ex:x-y-z"⟩, ⟨"ex:number"⟩, .literal (.simple "z")⟩]
    ∧ partEndpoint.Finds partDatabase (some (.iri ⟨"ex:x-y-z"⟩)) none none []
  := by
  constructor
  · apply @finds_of_pullAll partEndpoint partDatabase none none none 20 5
    decide
  · apply @finds_of_pullAll partEndpoint partDatabase (some (.iri ⟨"ex:x-y-z"⟩)) none none 20 5
    decide

end Endpoint

end RelGraph.Engine
