import RelGraph.Proofs.Mapping.Bgp
import RelGraph.Proofs.Mapping.Narrowing

/-!
# Solution maps that can be queried

A solution map that can be queried makes its bindings of the combinations of rows that its relation
reads.  It stays so when it is narrowed to a binding or when conditions on its columns are added,
and then it makes its bindings of those combinations on which the conditions are true.
-/

namespace RelGraph.Mapping.SolutionMap

open Rdf Sql Database

/-- The query of the solution map succeeds, and only one text of a row stands for a term.  Without a
database there is one row and no variable. -/
structure Queryable (db : Database) (m : SolutionMap) : Prop where
  wellFormed : m.WellFormed
  sound : m.relation.Sound
  fits : m.relation.Fits db
  database : m.isEmpty = false → m.relation.database.isSome ∨ m = .trivial
  lowerCase : ∀ e ∈ m.entries, e.2.LowerCase
  unambiguous : ∀ pick, m.relation.Holds db pick → ∀ e ∈ m.entries, e.2.UnambiguousAt pick.cell

variable {db : Database} {m : SolutionMap} {b : Binding}

/-! ### Bindings of combinations -/

/-- The combinations that are read, on which the term maps are unambiguous, and of which the
bindings are made. -/
structure Reads (db : Database) (m : SolutionMap) (envs : List Env) : Prop where
  read : db.readEnvs m.relation = .ok envs
  columns : ∀ env ∈ envs, env.Has m.columns
  unambiguous : ∀ env ∈ envs, ∀ e ∈ m.entries, e.2.Unambiguous ⟨env⟩
  bindings : m.bindings db = .ok ((rowsOf m.relation envs).filterMap m.make?)

theorem bindings_eq_map (h : m.isEmpty = false → m.relation.database.isSome ∨ m = .trivial)
    (he : m.isEmpty = false) :
  m.bindings db = (fun rows => rows.filterMap m.make?) <$> db.answer ⟨m.relation⟩
  := by
  obtain hdatabase | rfl := h he
  · rw [bindings, if_neg (by simp [he]),
      if_neg (by simpa using Option.isSome_iff_ne_none.1 hdatabase)]
  · rfl

theorem Queryable.exists_reads (hdb : db.Rectangular) (hm : m.Queryable db) :
  ∃ envs, m.Reads db envs
  := by
  obtain ⟨rows, hrows, -⟩ := Relation.exists_answer hm.sound hm.fits hdb
  obtain ⟨envs, henvs, hhas, rfl⟩ :=
    (answer_eq_ok hm.sound.limit hm.sound.limitInverse).1 hrows
  obtain ⟨envs', henvs', hpicks⟩ := Relation.exists_readEnvs hm.sound hm.fits hdb
  rw [henvs] at henvs'
  cases henvs'
  cases he : m.isEmpty with
  | true =>
    have hnil : envs = [] := by
      rw [List.eq_nil_iff_forall_not_mem]
      intro env henv
      obtain ⟨pick, hpick, -⟩ := (hpicks env).1 henv
      have hcondition := hpick.condition
      rw [Relation.isEmpty_iff.1 he] at hcondition
      apply Expr.not_holdsAt_never hcondition
    subst hnil
    refine ⟨[], henvs, by simp, by simp, ?_⟩
    rw [bindings, if_pos he]
    cases hunique : m.relation.unique <;> simp [rowsOf, hunique, dedup]
  | false =>
    have hcolumns : m.relation.projections = canonical m.columns := hm.wellFormed.projections he
    refine ⟨envs, henvs, ?_, ?_, ?_⟩
    · intro env henv c hc
      apply hhas env henv
      rw [hcolumns, mem_canonical]
      apply hc
    · intro env henv e hentry
      obtain ⟨pick, hpick, rfl⟩ := (hpicks env).1 henv
      apply TermMap.unambiguous_of_unambiguousAt _ (hm.unambiguous pick hpick e hentry)
      intro c hc
      apply Pick.get?_env (hm.sound.mem_tables _)
      rw [Relation.mem_columnList_iff]
      right; right; left
      rw [hcolumns, mem_canonical]
      apply mem_columns_of_mem hentry hc
    · rw [bindings_eq_map hm.database he, hrows]
      rfl

section

variable {α : Type} {make : Row → Option α} {q : α → Bool}

theorem filterMap_filter_isSome (rows : List Row) :
  (rows.filter fun row => (make row).isSome).filterMap make = rows.filterMap make
  := by
  rw [List.filterMap_filter]
  apply List.filterMap_congr
  intro row _
  cases make row <;> rfl

theorem filterMap_filter_any (rows : List Row) :
  (rows.filter fun row => (make row).any q).filterMap make = (rows.filterMap make).filter q
  := by
  rw [List.filterMap_filter, List.filter_filterMap]
  apply List.filterMap_congr
  intro row _
  cases make row with
  | none => rfl
  | some x => cases hx : q x <;> simp [Option.filter, hx]

/-- If a condition on combinations says the same as one on what is made of them, selecting the
combinations selects what is made, also if repeated rows are left out. -/
theorem perm_filterMap_rowsOf {r : Relation} {envs envs' : List Env} {P : Env → Bool}
    (hperm : envs'.Perm (envs.filter P))
    (hP : ∀ env ∈ envs, ∀ x, make (rowOf r.projections env) = some x
      → (P env = true ↔ q x = true)) :
  ((rowsOf r envs').filterMap make).Perm (((rowsOf r envs).filterMap make).filter q)
  := by
  have hrow : ∀ env ∈ envs,
      (P env && (make (rowOf r.projections env)).isSome)
        = (make (rowOf r.projections env)).any q := by
    intro env henv
    cases hx : make (rowOf r.projections env) with
    | none => simp
    | some x =>
      rw [Option.isSome_some, Bool.and_true, Option.any_some, Bool.eq_iff_iff]
      apply hP env henv x hx
  have hrows : ((envs'.map (rowOf r.projections)).filter fun row => (make row).isSome).Perm
      ((envs.map (rowOf r.projections)).filter fun row => (make row).any q) := by
    rw [List.filter_map, List.filter_map]
    apply List.Perm.map
    apply (hperm.filter _).trans
    rw [List.filter_filter]
    apply List.Perm.of_eq
    apply List.filter_congr
    intro env henv
    rw [Bool.and_comm]
    apply hrow env henv
  rw [← filterMap_filter_isSome (rowsOf r envs'), ← filterMap_filter_any (rowsOf r envs)]
  apply List.Perm.filterMap
  cases hunique : r.unique with
  | true =>
    rw [rowsOf, rowsOf, if_pos hunique, if_pos hunique]
    apply hrows
  | false =>
    rw [rowsOf, rowsOf, if_neg (by simp [hunique]), if_neg (by simp [hunique]), ← dedup_filter,
      ← dedup_filter]
    apply perm_dedup fun row => hrows.mem_iff

end

/-! ### Conditions on the columns -/

section

variable {c : Expr}

theorem Queryable.of_isEmpty (hm : m.WellFormed) (hlower : ∀ e ∈ m.entries, e.2.LowerCase)
    (he : m.relation = .empty) :
  m.Queryable db
  := by
  have hempty : m.isEmpty = true := by
    rw [isEmpty, he]
    rfl
  refine ⟨hm, ?_, ?_, ?_, hlower, ?_⟩
  · rw [he]
    apply Relation.sound_empty
  · rw [he]
    constructor
    · intro t ht
      cases ht
    · intro c hc
      cases hc
  · intro hfalse
    rw [hempty] at hfalse
    cases hfalse
  · intro pick hpick
    have hcondition := hpick.condition
    rw [Relation.isEmpty_iff.1 hempty] at hcondition
    exact absurd hcondition Expr.not_holdsAt_never

theorem readsOnly_projections (hm : m.WellFormed) (he : (m.relation.select c).isEmpty = false)
    (hreads : Expr.ReadsOnly m.columns c) :
  Expr.ReadsOnly m.relation.projections c
  := by
  intro d hd
  rw [hm.projections (Relation.isEmpty_eq_false_of_select he), mem_canonical]
  apply hreads d hd

/-- A condition on the columns can be added.  Without columns, it has to be a constant. -/
theorem Queryable.select (hm : m.Queryable db) (hc : c.isCondition = true)
    (hreads : Expr.ReadsOnly m.columns c)
    (hconstant : m = .trivial → c = .always ∨ c = .never) :
  (m.select c).Queryable db
  := by
  by_cases halways : c = .always
  · rw [SolutionMap.select, Relation.select, if_pos halways]
    apply hm
  cases he : (m.relation.select c).isEmpty with
  | true =>
    apply Queryable.of_isEmpty (hm.wellFormed.select c) hm.lowerCase
    apply Relation.select_eq_empty halways he
  | false =>
    have hrestricts := Relation.restricts_select hm.sound hc
      (readsOnly_projections hm.wellFormed he hreads) he
    refine ⟨hm.wellFormed.select c, hrestricts.sound, hrestricts.fits hm.fits, ?_, hm.lowerCase, ?_⟩
    · intro _
      rw [show (m.select c).relation.database = _ from hrestricts.database]
      apply (hm.database (Relation.isEmpty_eq_false_of_select he)).imp_right
      rintro rfl
      obtain rfl | rfl := hconstant rfl
      · rfl
      · cases he
    · intro pick hpick
      apply hm.unambiguous pick ((hrestricts.holds db pick).1 hpick).1

end

/-! ### Narrowing -/

/-- A solution map that can be queried can be queried when it is narrowed. -/
theorem Queryable.narrowed (hm : m.Queryable db) {s : SolutionMap} (hs : m.substitute? b = some s) :
  s.Queryable db
  := by
  obtain ⟨hnever, he, rfl⟩ := substitute?_eq_some_iff.1 hs
  obtain ⟨hselects, htables, hcolumns, hcolumns'⟩ := selects_narrowed hm.wellFormed hnever he
  have hrestricts : m.relation.Restricts (m.narrowed b).relation
      (Expr.andAll (conditionsFor b m.entries)) := by
    apply hselects.restricts hm.sound (isCondition_conditionsFor b m)
      (readsOnly_projections hm.wellFormed he (readsOnly_conditionsFor b m)) htables _ he
    · rw [SolutionMap.narrowed, build, Relation.project_of_not_isEmpty he]
    · intro c hc
      rw [hcolumns', mem_canonical] at hc
      rw [hcolumns, mem_canonical]
      apply mem_columns_of_narrowed hc
  refine ⟨hm.wellFormed.narrowed b, hrestricts.sound, hrestricts.fits hm.fits, ?_, ?_, ?_⟩
  · intro _
    rw [hrestricts.database]
    apply (hm.database (Relation.isEmpty_eq_false_of_select he)).imp_right
    rintro rfl
    rfl
  · rintro ⟨v, t⟩ ht
    obtain ⟨-, ht⟩ | ⟨u, -, rfl, -⟩ := mem_entries_narrowed.1 ht
    · apply hm.lowerCase _ ht
    · trivial
  · rintro pick hpick ⟨v, t⟩ ht
    obtain ⟨-, ht⟩ | ⟨u, -, rfl, -⟩ := mem_entries_narrowed.1 ht
    · apply hm.unambiguous pick ((hrestricts.holds db pick).1 hpick).1 _ ht
    · trivial

/-- The bindings of a solution map; none if its query fails. -/
def bindingList (db : Database) (m : SolutionMap) : List Binding :=
  (m.bindings db).toOption.getD []

/-- The bindings of a solution map that is narrowed to a binding; none if it can not be. -/
def narrowedList (db : Database) (b : Binding) (m : SolutionMap) : List Binding :=
  ((m.substitute? b).map (bindingList db)).getD []

/-- The bindings that the narrowed solution map makes of some combinations. -/
def madeFrom (m : SolutionMap) (b : Binding) (envs : List Env) : List Binding :=
  (rowsOf { m.relation with projections := canonical (m.narrowed b).columns } envs).filterMap
    (m.narrowed b).make?

section

variable {envs : List Env}

theorem Reads.bindingList_eq (h : m.Reads db envs) :
  m.bindingList db = (rowsOf m.relation envs).filterMap m.make?
  := by
  rw [bindingList, h.bindings]
  rfl

theorem madeFrom_nil (m : SolutionMap) (b : Binding) :
  m.madeFrom b [] = []
  := by
  cases hunique : m.relation.unique <;> simp [madeFrom, rowsOf, hunique, dedup]

/-- A combination that is read gives what its row gives. -/
theorem Reads.make?_rowOf (h : m.Reads db envs) (hm : m.WellFormed) {env : Env}
    (henv : env ∈ envs) :
  m.make? (rowOf m.relation.projections env) = m.make? ⟨env⟩
  := by
  have hcondition := (isTrueOn_fullCondition.1 (isTrueOn_of_mem_readEnvs h.read henv)).2
  have he : m.isEmpty = false := by
    apply Relation.isEmpty_eq_false_iff.2
    intro hnever
    rw [hnever] at hcondition
    cases hcondition
  apply make?_congr
  intro c hc
  apply get?_rowOf_of_mem
  rw [hm.projections he, mem_canonical]
  apply hc

/-- The narrowed solution map makes its bindings of the combinations that give the terms of the
binding. -/
theorem Queryable.exists_narrowedList (hdb : db.Rectangular) (hm : m.Queryable db)
    (h : m.Reads db envs) (b : Binding) :
  ∃ envs', envs'.Perm (envs.filter (Expr.andAll (conditionsFor b m.entries)).isTrueOn)
    ∧ m.narrowedList db b = m.madeFrom b envs'
  := by
  cases hs : m.substitute? b with
  | none =>
    use []
    rw [narrowedList, hs, madeFrom_nil]
    refine ⟨?_, rfl⟩
    rw [List.nil_perm, List.filter_eq_nil_iff]
    intro env henv htrue
    have hcondition := (isTrueOn_fullCondition.1 (isTrueOn_of_mem_readEnvs h.read henv)).2
    obtain hnever | hempty := substitute?_eq_none_iff.1 hs
    · rw [Expr.andAll, if_pos hnever] at htrue
      cases htrue
    · apply Relation.not_isTrueOn_of_isEmpty_select hempty env ⟨hcondition, htrue⟩
  | some s =>
    obtain ⟨envs', h'⟩ := (hm.narrowed hs).exists_reads hdb
    use envs'
    rw [narrowedList, hs, Option.map_some, Option.getD_some, h'.bindingList_eq]
    obtain ⟨hnever, he, rfl⟩ := substitute?_eq_some_iff.1 hs
    obtain ⟨hselects, htables, -, hprojections⟩ := selects_narrowed hm.wellFormed hnever he
    constructor
    · apply perm_filter_of_readEnvs htables hselects.aliases hselects.joins hselects.isTrueOn h.read
        h'.read
    · simp only [madeFrom, rowsOf, hselects.unique, hprojections]

/-- A condition on the columns leaves the combinations on which it is true. -/
theorem Queryable.exists_narrowedList_select (hdb : db.Rectangular) (hm : m.Queryable db)
    (h : m.Reads db envs) (b : Binding) {c : Expr} (hreads : Expr.ReadsOnly m.columns c)
    (hc : (m.select c).Queryable db) :
  ∃ envs', envs'.Perm ((envs.filter c.isTrueOn).filter
      (Expr.andAll (conditionsFor b m.entries)).isTrueOn)
    ∧ (m.select c).narrowedList db b = m.madeFrom b envs'
  := by
  cases he : (m.relation.select c).isEmpty with
  | true =>
    have hs : (m.select c).substitute? b = none :=
      substitute?_eq_none_iff.2 (.inr (Relation.isEmpty_select_of_isEmpty he _))
    use []
    rw [narrowedList, hs, madeFrom_nil]
    refine ⟨?_, rfl⟩
    rw [List.nil_perm, List.filter_filter, List.filter_eq_nil_iff]
    intro env henv htrue
    rw [Bool.and_eq_true] at htrue
    have hcondition := (isTrueOn_fullCondition.1 (isTrueOn_of_mem_readEnvs h.read henv)).2
    apply Relation.not_isTrueOn_of_isEmpty_select he env ⟨hcondition, htrue.2⟩
  | false =>
    obtain ⟨hselects, hprojections⟩ := Relation.selects_select he
    have htables := Relation.tables_select (readsOnly_projections hm.wellFormed he hreads) he
    obtain ⟨envs', h'⟩ := hc.exists_reads hdb
    have hperm : envs'.Perm (envs.filter c.isTrueOn) :=
      perm_filter_of_readEnvs htables hselects.aliases hselects.joins hselects.isTrueOn h.read
        h'.read
    obtain ⟨envs'', hperm', heq⟩ := hc.exists_narrowedList hdb h' b
    use envs'', hperm'.trans (hperm.filter _)
    rw [heq]
    simp only [madeFrom, rowsOf, show (m.select c).relation.unique = _ from hselects.unique]
    rfl

end

/-- Narrowing to the binding of no variable changes nothing. -/
theorem WellFormed.narrowedList_empty (hm : m.WellFormed) :
  m.narrowedList db .empty = m.bindingList db
  := by
  have hnone : conditionsFor .empty m.entries = [] := by
    rw [List.eq_nil_iff_forall_not_mem]
    intro c hc
    obtain ⟨v, t, u, -, hu, -⟩ := mem_conditionsFor.1 hc
    rw [Binding.get?_empty] at hu
    cases hu
  have hselect : m.relation.select (Expr.andAll (conditionsFor .empty m.entries)) = m.relation := by
    rw [hnone]
    rfl
  cases he : m.isEmpty with
  | true =>
    rw [narrowedList, substitute?_eq_none_iff.2 (.inr (by rw [hselect]; apply he)), bindingList,
      bindings, if_pos he]
    rfl
  | false =>
    have hterms : m.fixedTerms .empty = m.terms := by
      apply SortedMap.ext
      intro v
      rw [get?_fixedTerms, Binding.get?_empty]
      cases m.terms.get? v <;> rfl
    have hchecks : m.looseChecks .empty = m.checks := by
      rw [looseChecks, List.filter_eq_self]
      intro c _
      rw [Binding.get?_empty]
      rfl
    have hnarrowed : m.narrowed .empty = m := by
      have hcolumns : m.terms.values.flatMap TermMap.columns
          ++ m.checks.flatMap (fun c => c.2.columns) = m.columns := by
        rw [columns, entries, List.flatMap_append, SortedMap.values, List.flatMap_map]
      rw [SolutionMap.narrowed, hselect, hterms, hchecks, build,
        Relation.project_of_not_isEmpty he, hcolumns, ← hm.projections he]
    rw [narrowedList, substitute?_eq_some_iff.2 ⟨by simp [hnone], by rw [hselect]; apply he, rfl⟩,
      Option.map_some, Option.getD_some, hnarrowed]

end RelGraph.Mapping.SolutionMap

/-! ### The solution maps of some patterns -/

namespace RelGraph.Mapping

open Rdf Sql

/-- The rows of the triple map can be read from a database, and only one text of a row stands for a
term, also in the copies that are read for several patterns. -/
structure TripleMap.Served (db : Database) (m : TripleMap) : Prop where
  sound : m.Sound
  fits : m.relation.Fits db
  database : m.relation.database.isSome
  lowerCase : ∀ t ∈ m.termMaps, t.LowerCase
  unambiguous : ∀ k s, m.view k = .ok s → ∀ row, s.HasRow db row
    → ∀ t ∈ s.termMaps, t.Unambiguous row

section

variable {db : Database} {maps : List TripleMap} {patterns : List TriplePattern}

/-- The term maps of a candidate are unambiguous on its picks. -/
theorem TripleMap.Served.unambiguousAt {m : TripleMap} (hm : m.Served db) (hdb : db.Rectangular)
    {c : Choice} {k : Option Nat} (hc : m.IsCandidate c.1 k c.2) {pick : Pick}
    (hpick : c.2.relation.Holds db pick) {v : Variable} {t : TermMap}
    (ht : (v, t) ∈ c.occurrences) :
  t.UnambiguousAt pick.cell
  := by
  obtain ⟨s, hs, hholds⟩ := hc.exists_view_holds hm.sound
  have hpick := hholds db pick hpick
  have he := Relation.isEmpty_eq_false_of_select hc.1
  have hview := viewOf_view he hs (Relation.restricts_self hm.sound.sound) hm.sound.made
  have hsound : s.Sound := ⟨hm.sound.made.view hs, hview.sound⟩
  obtain ⟨u, hq, rfl⟩ := (hc.outlineOf hm.sound).mem_occurrences_iff.1 ht
  have ht : u.rename (Column.view k) ∈ s.termMaps := by
    rw [termMaps_view he hs hm.sound]
    apply List.mem_map_of_mem (List.of_mem_zip hq).2
  apply TermMap.unambiguousAt_of_row fun _ => hsound.get?_sample hpick ht
  apply hm.unambiguous k s hs _ _ _ ht
  apply (hsound.hasRow_iff (hview.fits db hm.fits) hdb).2 ⟨pick, hpick, rfl⟩

/-- Term maps that are unambiguous on all rows are so in the copies. -/
theorem TripleMap.unambiguous_view {m s : TripleMap} {k : Option Nat} (h : m.view k = .ok s)
    (hm : ∀ t ∈ m.termMaps, ∀ row, t.Unambiguous row) :
  ∀ t ∈ s.termMaps, ∀ row, t.Unambiguous row
  := by
  cases k with
  | none =>
    cases h
    apply hm
  | some n =>
    simp only [view, copy, bind_eq_ok, pure_eq_ok] at h
    obtain ⟨names, -, relation, -, rfl⟩ := h
    intro t ht row
    obtain ⟨u, hu, rfl⟩ : ∃ u ∈ m.termMaps, u.rename names.nameColumn = t := List.mem_map.1 ht
    apply TermMap.unambiguous_of_unambiguousAt fun _ _ => rfl
    apply TermMap.unambiguousAt_rename (fun _ _ => rfl) (hm u hu _)

/-- The solution map of some candidates of triple maps that are served can be queried. -/
theorem Assignment.SolutionOf.queryable {choices : List Choice} {a : Assignment} {s : SolutionMap}
    (h : SolutionOf choices a s) (hdb : db.Rectangular) (hmaps : ∀ m ∈ maps, m.Served db)
    (hchoices : ∀ c ∈ choices, ∃ m ∈ maps, ∃ k, m.IsCandidate c.1 k c.2) (hne : choices ≠ []) :
  s.Queryable db
  := by
  have hentry : ∀ e ∈ s.entries, ∃ c ∈ choices, e ∈ c.occurrences := by
    rintro ⟨v, t⟩ he
    obtain ht | hc := SolutionMap.mem_entries_iff.1 he
    · apply List.mem_flatMap.1 (h.collected.terms_mem v t ht)
    · apply List.mem_flatMap.1 (h.collected.checks_mem _ hc).1
  refine ⟨⟨fun _ => h.projections, ?_⟩, h.sound, ?_, ?_, ?_, ?_⟩
  · intro c hc
    apply h.collected.mem_terms c (h.collected.checks_mem c hc).1
  · apply h.fits
    intro c hc
    obtain ⟨m, hm, k, hcandidate⟩ := hchoices c hc
    apply (hcandidate.outlineOf (hmaps m hm).sound).fits db (hmaps m hm).fits
  · intro _
    left
    obtain ⟨c, hc⟩ := List.exists_mem_of_ne_nil choices hne
    obtain ⟨m, hm, k, hcandidate⟩ := hchoices c hc
    obtain ⟨name, hname⟩ := Option.isSome_iff_exists.1 (hmaps m hm).database
    rw [(h.database name).2 ⟨c, hc, (hcandidate.outlineOf (hmaps m hm).sound).database.trans hname⟩]
    rfl
  · rintro ⟨v, t⟩ he
    obtain ⟨c, hc, he⟩ := hentry _ he
    obtain ⟨m, hm, k, hcandidate⟩ := hchoices c hc
    apply (hcandidate.outlineOf (hmaps m hm).sound).lowerCase he (hmaps m hm).lowerCase
  · rintro pick hpick ⟨v, t⟩ he
    obtain ⟨c, hc, he⟩ := hentry _ he
    obtain ⟨m, hm, k, hcandidate⟩ := hchoices c hc
    apply (hmaps m hm).unambiguousAt hdb hcandidate (((h.holds db pick).1 hpick).1 c hc) he

theorem SolutionMap.queryable_trivial (db : Database) :
  SolutionMap.trivial.Queryable db
  := by
  refine ⟨wellFormed_trivial, ⟨rfl, rfl, rfl, ?_⟩, ⟨?_, ?_⟩, fun _ => .inr rfl, ?_, ?_⟩
  · intro j hj
    cases hj
  · intro t ht
    cases ht
  · intro c hc
    cases hc
  · intro e he
    cases he
  · intro pick _ e he
    cases he

/-- The solution maps of some patterns can be queried. -/
theorem queryable_of_solutionMaps (hdb : db.Rectangular) (hmaps : ∀ m ∈ maps, m.Served db)
    {solutions : List SolutionMap} (h : solutionMaps patterns maps = .ok solutions) :
  ∀ s ∈ solutions, s.Queryable db
  := by
  intro s hs
  have hsound : ∀ m ∈ maps, m.Sound := fun m hm => (hmaps m hm).sound
  obtain ⟨rfl, rfl⟩ | ⟨hnone, rfl⟩ | ⟨found, ordered, hfound, hordered, hall, hsolutions⟩ :=
    solutionMaps_cases h
  · rw [List.mem_singleton.1 hs]
    apply SolutionMap.queryable_trivial
  · cases hs
  · obtain ⟨he, a, ha, hsolution⟩ := (hsolutions s).1 hs
    obtain ⟨choices, hchooses, ha⟩ := Assignment.exists_chooses_of_mem_found ha
    obtain ⟨hjoinable, hpatterns⟩ := joinable_of_chooses hsound hfound hordered hchooses
    cases patterns with
    | nil =>
      cases h
      rw [List.mem_singleton.1 hs]
      apply SolutionMap.queryable_trivial
    | cons p ps =>
      apply (Assignment.solutionOf_toSolutionMap hjoinable ha hsolution he).queryable hdb hmaps
        hjoinable.candidate
      obtain ⟨c, hc, -⟩ := (hpatterns p).1 List.mem_cons_self
      apply List.ne_nil_of_mem hc

end

end RelGraph.Mapping
