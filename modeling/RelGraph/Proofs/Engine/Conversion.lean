import RelGraph.Proofs.Engine.Interchange
import RelGraph.Proofs.Engine.SqlFilter
import RelGraph.Proofs.Mapping.Queryable

/-!
# Conversion of filters

A solution map with the conditions for some expressions gives those of its bindings on which the
expressions hold, also if it is narrowed.  So the plan of a filter above triple patterns has the
same solutions, however much of the filter is converted, and it can be used within any pattern that
depends on all its solutions.
-/

namespace RelGraph.Engine

open Rdf Sql Sparql Mapping Database

/-! ### One condition -/

section

variable {db : Database} {m : SolutionMap} {e : Expression} {c : Expr} (hm : m.Queryable db)
  (h : toSql? m e = some c)

include hm h

theorem queryable_select :
  (m.select c).Queryable db
  := by
  obtain ⟨hc, hreads⟩ := readsOnly_toSql? h
  apply hm.select hc hreads
  rintro rfl
  apply toSql?_constant h
  intro v
  apply SortedMap.get?_empty

variable (hdb : db.Rectangular) (hterms : ∀ x ∈ m.bindingList db, e.ComparesTerms x)

include hterms

/-- The condition is true on a combination exactly when the expression holds on its binding. -/
theorem isTrueOn_iff_holds {envs : List Env} (henvs : m.Reads db envs) {env : Env}
    (henv : env ∈ envs) {x : Binding} (hx : m.make? ⟨env⟩ = some x) :
  c.isTrueOn env = true ↔ e.holds x = true
  := by
  obtain ⟨hc, hreads⟩ := readsOnly_toSql? h
  have hmem : x ∈ m.bindingList db := by
    rw [henvs.bindingList_eq, List.mem_filterMap]
    use rowOf m.relation.projections env, mem_rowsOf.2 ⟨env, henv, rfl⟩
    rw [henvs.make?_rowOf hm.wellFormed henv, hx]
  obtain ⟨t, ht, he⟩ :=
    sameTruth_toSql? hx hm.lowerCase (henvs.unambiguous env henv) (hterms x hmem) h
  rw [Expr.isTrueOn_of_readsOnly hc hreads (henvs.columns env henv), ht, Expression.holds_iff, he]

include hdb

/-- With the condition, the solution map gives the bindings on which the expression holds. -/
theorem perm_narrowedList_select (b : Binding) :
  ((m.select c).narrowedList db b).Perm ((m.narrowedList db b).filter e.holds)
  := by
  obtain ⟨envs, henvs⟩ := hm.exists_reads hdb
  obtain ⟨envs₁, hperm₁, heq₁⟩ := hm.exists_narrowedList hdb henvs b
  obtain ⟨envs₂, hperm₂, heq₂⟩ :=
    hm.exists_narrowedList_select hdb henvs b (readsOnly_toSql? h).2 (queryable_select hm h)
  rw [heq₁, heq₂]
  apply SolutionMap.perm_filterMap_rowsOf (P := c.isTrueOn)
  · apply hperm₂.trans
    rw [List.filter_comm]
    apply (hperm₁.filter _).symm
  · intro env henv x hx
    obtain ⟨henv, htrue⟩ := List.mem_filter.1 (hperm₁.mem_iff.1 henv)
    rw [Expr.isTrueOn_of_readsOnly (SolutionMap.isCondition_conditionsFor b m)
      (SolutionMap.readsOnly_conditionsFor b m) (henvs.columns env henv),
      ← SolutionMap.gives_iff_truthOn] at htrue
    apply isTrueOn_iff_holds hm h hterms henvs henv
    rw [← SolutionMap.make?_narrowed hm.wellFormed.checked htrue (m.narrowed b).relation, ← hx]
    apply SolutionMap.make?_congr (m := m.narrowed b)
    intro d hd
    apply (get?_rowOf_of_mem env (mem_canonical.2 hd)).symm

end

/-! ### All conditions -/

/-- What an expression is converted to depends on the term maps of the variables only. -/
theorem toSql?_select (m : SolutionMap) (c : Expr) (e : Expression) :
  toSql? (m.select c) e = toSql? m e
  := by
  have hlist {es : List Expression} (h : ∀ e ∈ es, toSql? (m.select c) e = toSql? m e) :
      toSqls? (m.select c) es = toSqls? m es := by
    induction es with
    | nil => rfl
    | cons e es ih =>
      rw [List.forall_mem_cons] at h
      rw [toSqls?, toSqls?, h.1, ih h.2]
  induction e with
  | and es ih => rw [toSql?, toSql?, hlist ih]
  | or es ih => rw [toSql?, toSql?, hlist ih]
  | not e ih => rw [toSql?, toSql?, ih]
  | _ => rfl

namespace Plan

theorem toSql?_selectIn (m : SolutionMap) (e e' : Expression) :
  toSql? (selectIn e' m) e = toSql? m e
  := by
  rw [selectIn]
  split
  · apply toSql?_select
  · rfl

/-- The solution map with the conditions for those of some expressions that can be converted. -/
def selectAll (es : List Expression) (m : SolutionMap) : SolutionMap :=
  es.foldl (fun m e => selectIn e m) m

theorem convertFilters_fst (es : List Expression) (ms : List SolutionMap) :
  (convertFilters es ms).1 = ms.map (selectAll es)
  := by
  induction es generalizing ms with
  | nil => exact (List.map_id ms).symm
  | cons e es ih =>
    rw [convertFilters, ih, List.map_map]
    rfl

/-- The expressions that remain are those that can not be converted for all the solution maps. -/
theorem convertFilters_snd (es : List Expression) (ms : List SolutionMap) :
  (convertFilters es ms).2 = es.filter fun e => !ms.all fun m => (toSql? m e).isSome
  := by
  induction es generalizing ms with
  | nil => rfl
  | cons e es ih =>
    have hrest := ih (ms.map (selectIn e))
    simp only [List.all_map, Function.comp_def, toSql?_selectIn] at hrest
    rw [List.filter_cons, ← hrest, convertFilters]
    cases ms.all fun m => (toSql? m e).isSome <;> rfl

section

variable {db : Database} {m : SolutionMap} (hdb : db.Rectangular)

include hdb

/-- With the condition for an expression, if there is one, the solution map gives the bindings on
which the expression holds. -/
theorem perm_narrowedList_selectIn (hm : m.Queryable db) {e : Expression}
    (hterms : ∀ x ∈ m.bindingList db, e.ComparesTerms x) :
  (selectIn e m).Queryable db ∧ ∀ b, ((selectIn e m).narrowedList db b).Perm
    ((m.narrowedList db b).filter fun x => (toSql? m e).isNone || e.holds x)
  := by
  rw [selectIn]
  split
  · rename_i c hc
    use queryable_select hm hc
    intro b
    rw [hc]
    apply perm_narrowedList_select hm hc hdb hterms b
  · rename_i hnone
    use hm
    intro b
    apply List.Perm.of_eq
    rw [eq_comm, List.filter_eq_self]
    intro x _
    rw [hnone]
    rfl

/-- With the conditions for some expressions, the solution map gives the bindings on which those
that can be converted hold. -/
theorem perm_narrowedList_selectAll (hm : m.Queryable db) {es : List Expression}
    (hterms : ∀ e ∈ es, ∀ x ∈ m.bindingList db, e.ComparesTerms x) :
  (selectAll es m).Queryable db ∧ ∀ b, ((selectAll es m).narrowedList db b).Perm
    ((m.narrowedList db b).filter fun x => es.all fun e => (toSql? m e).isNone || e.holds x)
  := by
  induction es generalizing m with
  | nil =>
    use hm
    intro b
    apply List.Perm.of_eq
    rw [selectAll, List.foldl_nil, eq_comm, List.filter_eq_self]
    exact fun _ _ => rfl
  | cons e es ih =>
    rw [List.forall_mem_cons] at hterms
    obtain ⟨hselected, hperm⟩ := perm_narrowedList_selectIn hdb hm hterms.1
    have hsub : ∀ x ∈ (selectIn e m).bindingList db, x ∈ m.bindingList db := by
      intro x hx
      rw [← hselected.wellFormed.narrowedList_empty] at hx
      rw [← hm.wellFormed.narrowedList_empty]
      apply List.mem_of_mem_filter ((hperm .empty).mem_iff.1 hx)
    obtain ⟨hall, hperms⟩ := ih hselected fun e he x hx => hterms.2 e he x (hsub x hx)
    use hall
    intro b
    apply (hperms b).trans
    apply ((hperm b).filter _).trans
    rw [List.filter_filter]
    simp only [toSql?_selectIn, List.all_cons, Bool.and_comm]
    rfl

end

/-! ### Plans of filters -/

/-- The plan with a filter, which is left out if it is always true. -/
def filtered (p : Plan) (e : Expression) : Plan :=
  if e.truth? = some true then p else .filter p e

theorem narrow_filtered (p : Plan) (e : Expression) (b : Binding) :
  (filtered p e).narrow b = filtered (p.narrow b) e
  := by
  rw [filtered, filtered]
  split <;> rfl

section

variable {db : Database} {n : Nat}

theorem flatMap_substitute? (ms : List SolutionMap) (b : Binding) :
  (ms.filterMap fun m => m.substitute? b).flatMap (SolutionMap.bindingList db)
    = ms.flatMap (SolutionMap.narrowedList db b)
  := by
  induction ms with
  | nil => rfl
  | cons m ms ih =>
    rw [List.filterMap_cons, List.flatMap_cons, SolutionMap.narrowedList, ← ih]
    cases m.substitute? b <;> rfl

/-- Solution maps without rows give no bindings. -/
theorem flatMap_filter_isEmpty (ms : List SolutionMap) (b : Binding) :
  (ms.filter fun m => !m.isEmpty).flatMap (SolutionMap.narrowedList db b)
    = ms.flatMap (SolutionMap.narrowedList db b)
  := by
  induction ms with
  | nil => rfl
  | cons m ms ih =>
    rw [List.filter_cons, List.flatMap_cons, ← ih]
    cases he : m.isEmpty with
    | false => rfl
    | true =>
      have hnone : m.substitute? b = none :=
        SolutionMap.substitute?_eq_none_iff.2 (.inr (Relation.isEmpty_select_of_isEmpty he _))
      rw [SolutionMap.narrowedList, hnone]
      rfl

theorem Answers.filtered {p : Plan} {xs : List Binding} (hp : p.Answers db n xs)
    (e : Expression) :
  (Plan.filtered p e).Answers db n (xs.filter e.holds)
  := by
  rw [Plan.filtered]
  split
  · rename_i htrue
    have hholds : ∀ x ∈ xs, e.holds x = true := by
      intro x _
      rw [Expression.holds_iff, Expression.truthOn_of_truth? htrue]
    rw [List.filter_eq_self.2 hholds]
    apply hp
  · apply hp.filter

theorem filterMaps_eq (ms : List SolutionMap) (e : Expression) :
  filterMaps ms e
    = filtered (.maps ((ms.map (selectAll e.conjunctList)).filter fun m => !m.isEmpty))
      (.andAll (e.conjunctList.filter fun c => !ms.all fun m => (toSql? m c).isSome))
  := by
  rw [← convertFilters_fst, ← convertFilters_snd]
  rfl

variable {ms : List SolutionMap} (hn : 0 < n) (hdb : db.Rectangular)
  (hms : ∀ m ∈ ms, m.Queryable db)

include hn hdb hms

theorem exists_answers_of_queryable :
  ∃ xs, (Plan.maps ms).Answers db n xs ∧ xs.Perm (ms.flatMap (SolutionMap.bindingList db))
  := by
  apply exists_answers_maps hn fun m hm => (hms m hm).wellFormed
  intro m hm
  obtain ⟨rows, hrows, -⟩ := Relation.exists_answer (hms m hm).sound (hms m hm).fits hdb
  rw [readRows]
  split
  · use []
  · split
    · use [Row.empty]
    · use rows

/-- Solution maps that are narrowed to a binding answer with the bindings of each of them. -/
theorem exists_answers_narrowed (b : Binding) :
  ∃ xs, ((Plan.maps ms).narrow b).Answers db n xs
    ∧ xs.Perm (ms.flatMap (SolutionMap.narrowedList db b))
  := by
  have hnarrowed : ∀ s ∈ ms.filterMap fun m => m.substitute? b, s.Queryable db := by
    intro s hs
    obtain ⟨m, hm, hs⟩ := List.mem_filterMap.1 hs
    apply (hms m hm).narrowed hs
  obtain ⟨xs, hxs, hperm⟩ := exists_answers_of_queryable hn hdb hnarrowed
  use xs, hxs
  apply hperm.trans
  rw [flatMap_substitute?]

theorem exists_answers_unnarrowed :
  ∃ xs, (Plan.maps ms).Answers db n xs
    ∧ xs.Perm (ms.flatMap (SolutionMap.narrowedList db .empty))
  := by
  obtain ⟨xs, hxs, hperm⟩ := exists_answers_of_queryable hn hdb hms
  use xs, hxs
  rw [List.flatMap_congr fun m hm => (hms m hm).wellFormed.narrowedList_empty]
  apply hperm

variable {e : Expression} (hterms : ∀ m ∈ ms, ∀ x ∈ m.bindingList db, e.ComparesTerms x)

include hterms

omit hn in
/-- On the bindings that are left, what remains of an expression holds where the expression does. -/
theorem perm_filter_remaining {m : SolutionMap} (hm : m ∈ ms) (b : Binding) :
  (((selectAll e.conjunctList m).narrowedList db b).filter
      (Expression.andAll (e.conjunctList.filter fun c =>
        !ms.all fun m => (toSql? m c).isSome)).holds).Perm
    ((m.narrowedList db b).filter e.holds)
  := by
  have hconjuncts : ∀ c ∈ e.conjunctList, ∀ x ∈ m.bindingList db, c.ComparesTerms x :=
    fun c hc x hx => (hterms m hm x hx).of_mem_conjunctList hc
  apply (((perm_narrowedList_selectAll hdb (hms m hm) hconjuncts).2 b).filter _).trans
  rw [List.filter_filter]
  apply List.Perm.of_eq
  apply List.filter_congr
  intro x _
  have he : e.holds x = e.conjunctList.all fun c => c.holds x := by
    rw [Bool.eq_iff_iff, Expression.holds_iff, Expression.all_holds_iff,
      Expression.allTrue_conjunctList]
  rw [he, Expression.holds_andAll, Bool.eq_iff_iff, Bool.and_eq_true, List.all_eq_true,
    List.all_eq_true, List.all_eq_true]
  constructor
  · rintro ⟨hremaining, hconverted⟩ c hc
    cases hsome : toSql? m c with
    | some condition => simpa [hsome] using hconverted c hc
    | none =>
      apply hremaining c
      rw [List.mem_filter]
      use hc
      rw [Bool.not_eq_true', List.all_eq_false]
      use m, hm
      simp [hsome]
  · intro hall
    constructor
    · intro c hc
      apply hall c (List.mem_of_mem_filter hc)
    · intro c hc
      rw [hall c hc, Bool.or_true]

/-- The plan of a filter above solution maps can be interchanged with the one in which all of the
filter is converted that can be. -/
theorem interchangeable_filterMaps :
  Interchangeable db n (filterMaps ms e) (.filter (.maps ms) e)
  := by
  have hselected : ∀ s ∈ (ms.map (selectAll e.conjunctList)).filter fun m => !m.isEmpty,
      s.Queryable db := by
    intro s hs
    obtain ⟨m, hm, rfl⟩ := List.mem_map.1 (List.mem_of_mem_filter hs)
    apply (perm_narrowedList_selectAll hdb (hms m hm) _).1
    exact fun c hc x hx => (hterms m hm x hx).of_mem_conjunctList hc
  have hperm {xs ys : List Binding} {b : Binding}
      (hxs : xs.Perm (((ms.map (selectAll e.conjunctList)).filter fun m => !m.isEmpty).flatMap
        (SolutionMap.narrowedList db b)))
      (hys : ys.Perm (ms.flatMap (SolutionMap.narrowedList db b))) :
      (xs.filter (Expression.andAll (e.conjunctList.filter fun c =>
        !ms.all fun m => (toSql? m c).isSome)).holds).Perm (ys.filter e.holds) := by
    rw [flatMap_filter_isEmpty, List.flatMap_map] at hxs
    apply (hxs.filter _).trans
    apply List.Perm.trans _ (hys.filter _).symm
    rw [List.filter_flatMap, List.filter_flatMap]
    apply List.Perm.flatMap_left
    exact fun m hm => perm_filter_remaining hdb hms hterms hm b
  rw [filterMaps_eq]
  constructor
  · obtain ⟨xs, hxs, hxs'⟩ := exists_answers_unnarrowed hn hdb hselected
    obtain ⟨ys, hys, hys'⟩ := exists_answers_unnarrowed hn hdb hms
    exact ⟨_, _, hxs.filtered _, hys.filter e, hperm hxs' hys'⟩
  · intro b
    obtain ⟨xs, hxs, hxs'⟩ := exists_answers_narrowed hn hdb hselected b
    obtain ⟨ys, hys, hys'⟩ := exists_answers_narrowed hn hdb hms b
    rw [narrow_filtered]
    exact ⟨_, _, hxs.filtered _, hys.filter e, hperm hxs' hys'⟩

end

end Plan

end RelGraph.Engine

namespace RelGraph.Sparql.Pattern

open Rdf

mutual

/-- No part of the pattern leaves out solutions because of their order. -/
def isUncut : Pattern → Bool
  | .bgp _ => true
  | .join l r => isUncut l && isUncut r
  | .leftJoin l r _ => isUncut l && isUncut r
  | .filter _ p => isUncut p
  | .union ps => areUncut ps
  | .minus l r => isUncut l && isUncut r
  | .extend p _ _ => isUncut p
  | .values _ _ => true
  | .orderBy p _ => isUncut p
  | .project p _ => isUncut p
  | .distinct p => isUncut p
  | .reduced _ => false
  | .slice _ _ _ => false

/-- No part of the patterns leaves out solutions because of their order. -/
def areUncut : List Pattern → Bool
  | [] => true
  | p :: ps => isUncut p && areUncut ps

end

mutual

/-- The filters right above triple patterns. -/
def filters : Pattern → List (Expression × List TriplePattern)
  | .bgp _ => []
  | .join l r => filters l ++ filters r
  | .leftJoin l r _ => filters l ++ filters r
  | .filter e (.bgp ps) => [(e, ps)]
  | .filter _ p => filters p
  | .union ps => filtersOfAll ps
  | .minus l r => filters l ++ filters r
  | .extend p _ _ => filters p
  | .values _ _ => []
  | .orderBy p _ => filters p
  | .project p _ => filters p
  | .distinct p => filters p
  | .reduced p => filters p
  | .slice p _ _ => filters p

/-- The filters right above triple patterns of some patterns. -/
def filtersOfAll : List Pattern → List (Expression × List TriplePattern)
  | [] => []
  | p :: ps => filters p ++ filtersOfAll ps

end

theorem areUncut_eq_all (ps : List Pattern) :
  areUncut ps = ps.all isUncut
  := by
  induction ps with
  | nil => rfl
  | cons p ps ih => rw [areUncut, ih, List.all_cons]

theorem filtersOfAll_eq_flatMap (ps : List Pattern) :
  filtersOfAll ps = ps.flatMap filters
  := by
  induction ps with
  | nil => rfl
  | cons p ps ih => rw [filtersOfAll, ih, List.flatMap_cons]

theorem filters_filter {e : Expression} {p : Pattern} (hp : ∀ ps, p ≠ .bgp ps) :
  (Pattern.filter e p).filters = p.filters
  := by
  cases p with
  | bgp ps => exact absurd rfl (hp ps)
  | _ => rfl

end RelGraph.Sparql.Pattern

namespace RelGraph.Engine.Plan

open Rdf Sql Sparql Mapping

/-! ### Plans of patterns -/

/-- On each binding of the triple patterns, the filter compares terms that can be told apart by
their values. -/
def Comparing (db : Database) (maps : List TripleMap) (f : Expression × List TriplePattern) :
    Prop :=
  ∀ ms, solutionMaps f.2 maps = .ok ms → ∀ m ∈ ms, ∀ xs, m.bindings db = .ok xs
    → ∀ x ∈ xs, f.1.ComparesTerms x

section

variable {db : Database} {n : Nat} {maps : List TripleMap}

theorem ofPattern_filter {convert : Bool} {e : Expression} {p : Pattern} (hp : ∀ ps, p ≠ .bgp ps) :
  ofPattern maps convert (.filter e p) = do return .filter (← ofPattern maps convert p) e
  := by
  cases p with
  | bgp ps => exact absurd rfl (hp ps)
  | _ => rfl

/-- The plans of the pattern with converted filters and without can be interchanged. -/
def Convertible (db : Database) (n : Nat) (maps : List TripleMap) (p : Pattern) : Prop :=
  ∀ plain, ofPattern maps false p = .ok plain
    → ∃ converted, ofPattern maps true p = .ok converted ∧ Interchangeable db n converted plain

theorem Convertible.unary {f : Plan → Plan}
    (hf : ∀ {p q}, Interchangeable db n p q → Interchangeable db n (f p) (f q))
    {p inner : Pattern}
    (hp : ∀ convert, ofPattern maps convert p = do return f (← ofPattern maps convert inner))
    (h : Convertible db n maps inner) :
  Convertible db n maps p
  := by
  intro plain hplain
  rw [hp] at hplain
  obtain ⟨q, hq, hplain⟩ := bind_eq_ok.1 hplain
  obtain ⟨q', hq', hinner⟩ := h q hq
  cases hplain
  use f q'
  rw [hp, hq']
  exact ⟨rfl, hf hinner⟩

theorem Convertible.binary {f : Plan → Plan → Plan}
    (hf : ∀ {l l' r r'}, Interchangeable db n l l' → Interchangeable db n r r'
      → Interchangeable db n (f l r) (f l' r'))
    {p l r : Pattern}
    (hp : ∀ convert, ofPattern maps convert p
      = do return f (← ofPattern maps convert l) (← ofPattern maps convert r))
    (hl : Convertible db n maps l) (hr : Convertible db n maps r) :
  Convertible db n maps p
  := by
  intro plain hplain
  rw [hp] at hplain
  obtain ⟨a, ha, hplain⟩ := bind_eq_ok.1 hplain
  obtain ⟨b, hb, hplain⟩ := bind_eq_ok.1 hplain
  obtain ⟨a', ha', hleft⟩ := hl a ha
  obtain ⟨b', hb', hright⟩ := hr b hb
  cases hplain
  use f a' b'
  rw [hp, ha', hb']
  exact ⟨rfl, hf hleft hright⟩

theorem Convertible.union {ps : List Pattern} (h : ∀ p ∈ ps, Convertible db n maps p) :
  Convertible db n maps (.union ps)
  := by
  have hlist : ∀ plains, ofPatterns maps false ps = .ok plains
      → ∃ converted, ofPatterns maps true ps = .ok converted
        ∧ List.Forall₂ (Interchangeable db n) converted plains := by
    induction ps with
    | nil =>
      intro plains hplains
      cases hplains
      exact ⟨[], rfl, .nil⟩
    | cons p ps ih =>
      intro plains hplains
      rw [List.forall_mem_cons] at h
      obtain ⟨a, ha, hplains⟩ := bind_eq_ok.1 hplains
      obtain ⟨as, has, hplains⟩ := bind_eq_ok.1 hplains
      obtain ⟨b, hb, hfirst⟩ := h.1 a ha
      obtain ⟨bs, hbs, hrest⟩ := ih h.2 as has
      cases hplains
      use b :: bs
      rw [ofPatterns, hb, hbs]
      exact ⟨rfl, .cons hfirst hrest⟩
  intro plain hplain
  obtain ⟨plains, hplains, hplain⟩ := bind_eq_ok.1 hplain
  obtain ⟨converted, hconverted, hinterchangeable⟩ := hlist plains hplains
  cases hplain
  use .union converted
  exact ⟨bind_eq_ok.2 ⟨converted, hconverted, rfl⟩, .union hinterchangeable⟩

section

variable (hn : 0 < n) (hdb : db.Rectangular) (hmaps : ∀ m ∈ maps, m.Served db)

include hn hdb hmaps

theorem convertible_bgp (ps : List TriplePattern) :
  Convertible db n maps (.bgp ps)
  := by
  intro plain hplain
  use plain, hplain
  obtain ⟨ms, hms, hplain⟩ := bind_eq_ok.1 hplain
  cases hplain
  have hqueryable := queryable_of_solutionMaps hdb hmaps hms
  constructor
  · obtain ⟨xs, hxs, -⟩ := exists_answers_of_queryable hn hdb hqueryable
    exact ⟨xs, xs, hxs, hxs, .refl xs⟩
  · intro b
    obtain ⟨xs, hxs, -⟩ := exists_answers_narrowed hn hdb hqueryable b
    exact ⟨xs, xs, hxs, hxs, .refl xs⟩

theorem convertible_filter_bgp {e : Expression} {ps : List TriplePattern}
    (hterms : Comparing db maps (e, ps)) :
  Convertible db n maps (.filter e (.bgp ps))
  := by
  intro plain hplain
  obtain ⟨ms, hms, hplain⟩ := bind_eq_ok.1 hplain
  cases hplain
  have hqueryable := queryable_of_solutionMaps hdb hmaps hms
  use filterMaps ms e
  constructor
  · exact bind_eq_ok.2 ⟨ms, hms, rfl⟩
  · apply interchangeable_filterMaps hn hdb hqueryable
    intro m hm x hx
    obtain ⟨envs, henvs⟩ := (hqueryable m hm).exists_reads hdb
    rw [henvs.bindingList_eq] at hx
    apply hterms ms hms m hm _ henvs.bindings x hx

/-- Filters right above triple patterns can be converted in every pattern that does not depend on
the order of solutions. -/
theorem convertible_of_isUncut {p : Pattern} (hp : p.isUncut = true)
    (hterms : ∀ f ∈ p.filters, Comparing db maps f) :
  Convertible db n maps p
  := by
  induction p with
  | bgp ps => apply convertible_bgp hn hdb hmaps
  | join l r ihl ihr =>
    rw [Pattern.isUncut, Bool.and_eq_true] at hp
    rw [Pattern.filters, List.forall_mem_append] at hterms
    apply Convertible.binary Interchangeable.join (fun _ => rfl) (ihl hp.1 hterms.1)
      (ihr hp.2 hterms.2)
  | leftJoin l r e ihl ihr =>
    rw [Pattern.isUncut, Bool.and_eq_true] at hp
    rw [Pattern.filters, List.forall_mem_append] at hterms
    apply Convertible.binary (fun hl hr => Interchangeable.leftJoin hl hr e) (fun _ => rfl)
      (ihl hp.1 hterms.1) (ihr hp.2 hterms.2)
  | filter e p ih =>
    by_cases hbgp : ∃ ps, p = .bgp ps
    · obtain ⟨ps, rfl⟩ := hbgp
      apply convertible_filter_bgp hn hdb hmaps (hterms _ (List.mem_singleton_self _))
    · push Not at hbgp
      rw [Pattern.filters_filter hbgp] at hterms
      apply Convertible.unary (fun h => Interchangeable.filter h e)
        (fun _ => ofPattern_filter hbgp) (ih hp hterms)
  | union ps ih =>
    rw [Pattern.isUncut, Pattern.areUncut_eq_all, List.all_eq_true] at hp
    rw [Pattern.filters, Pattern.filtersOfAll_eq_flatMap] at hterms
    apply Convertible.union
    intro p hmem
    apply ih p hmem (hp p hmem)
    intro f hf
    apply hterms f (List.mem_flatMap.2 ⟨p, hmem, hf⟩)
  | minus l r ihl ihr =>
    rw [Pattern.isUncut, Bool.and_eq_true] at hp
    rw [Pattern.filters, List.forall_mem_append] at hterms
    apply Convertible.binary Interchangeable.minus (fun _ => rfl) (ihl hp.1 hterms.1)
      (ihr hp.2 hterms.2)
  | extend p v e ih =>
    apply Convertible.unary (fun h => Interchangeable.extend h v e) (fun _ => rfl) (ih hp hterms)
  | values vs rows =>
    intro plain hplain
    cases hplain
    exact ⟨_, rfl, .values _⟩
  | orderBy p keys ih =>
    apply Convertible.unary (fun h => Interchangeable.orderBy h keys) (fun _ => rfl) (ih hp hterms)
  | project p vs ih =>
    apply Convertible.unary (fun h => Interchangeable.project h vs) (fun _ => rfl) (ih hp hterms)
  | distinct p ih =>
    apply Convertible.unary Interchangeable.distinct (fun _ => rfl) (ih hp hterms)
  | reduced p ih => cases hp
  | slice p start length ih => cases hp

end

/-- The filters that remain are those that are not converted for some solution map. -/
theorem mem_convertFilters_iff {es : List Expression} {ms : List SolutionMap} {e : Expression} :
  e ∈ (convertFilters es ms).2 ↔ e ∈ es ∧ ∃ m ∈ ms, toSql? m e = none
  := by
  rw [convertFilters_snd, List.mem_filter, Bool.not_eq_true', List.all_eq_false]
  simp only [Bool.not_eq_true, Option.isSome_eq_false_iff, Option.isNone_iff_eq_none]

/-- Converting filters changes no answer of a pattern that does not depend on the order of
solutions: without the conversion and with it the plan delivers the same solutions, as often, and no
error.  A condition that can not be converted for some solution map remains. -/
theorem exists_converted_perm (hn : 0 < n) (hdb : db.Rectangular)
    (hmaps : ∀ m ∈ maps, m.Served db) {p : Pattern} (hp : p.isUncut = true)
    (hterms : ∀ f ∈ p.filters, Comparing db maps f) {plain : Plan}
    (h : ofPattern maps false p = .ok plain) :
  (∃ converted, ofPattern maps true p = .ok converted
      ∧ ∃ xs ys : List Binding, converted.Delivers db n (xs.map .ok)
        ∧ plain.Delivers db n (ys.map .ok) ∧ xs.Perm ys)
    ∧ ∀ (es : List Expression) (ms : List SolutionMap) (e : Expression), e ∈ es
      → (∃ m ∈ ms, toSql? m e = none) → e ∈ (convertFilters es ms).2
  := by
  constructor
  · obtain ⟨converted, hconverted, hinterchangeable⟩ :=
      convertible_of_isUncut hn hdb hmaps hp hterms plain h
    obtain ⟨xs, ys, hxs, hys, hperm⟩ := hinterchangeable.answers
    exact ⟨converted, hconverted, xs, ys, (answers_iff_delivers hn).1 hxs,
      (answers_iff_delivers hn).1 hys, hperm⟩
  · exact fun es ms e he hm => mem_convertFilters_iff.2 ⟨he, hm⟩

end

/-! ### An example -/

/-- Persons with their names. -/
def namePatterns : List TriplePattern :=
  [⟨.variable ⟨"x"⟩, .term (.iri ⟨"ex:name"⟩), .variable ⟨"n"⟩⟩]

/-- The person is the second one. -/
def isSecond : Expression := .sameTerm (.variable ⟨"x"⟩) (.iri ⟨"ex:2"⟩)

/-- There is an `o` in the name; this can not be converted. -/
def containsO : Expression := .call .contains [.variable ⟨"n"⟩, .literal (.simple "o")]

/-- The second person, if there is an `o` in the name. -/
def namedPerson : Pattern := .filter (.and [isSecond, containsO]) (.bgp namePatterns)

/-- The solution maps of persons with their names. -/
def nameSolutions : List SolutionMap :=
  ((((candidateList namePatterns [nameMap, knowsMap]).foldl extendAll [.empty]).mapM
    Assignment.toSolutionMap).toOption.getD []).filter fun s => !s.isEmpty

theorem solutionMaps_namePatterns :
  solutionMaps namePatterns [nameMap, knowsMap] = .ok nameSolutions
  := by
  apply solutionMaps_of_pairwise <;> decide

/-- A person and a name. -/
def namedBinding (person name : String) : Binding :=
  .ofList [(⟨"x"⟩, .iri ⟨person⟩), (⟨"n"⟩, .literal (.simple name))]

theorem bindings_nameSolutions :
  nameSolutions.flatMap (SolutionMap.bindingList friendsDatabase)
    = [namedBinding "ex:1" "Ann", namedBinding "ex:2" "Bob"]
  := by
  decide

theorem served_friendsDatabase :
  ∀ m ∈ [nameMap, knowsMap], m.Served friendsDatabase
  := by
  intro m hm
  have hm' : m ∈ [nameMap, knowsMap, titleMap] := by
    simp only [List.mem_cons] at hm ⊢
    tauto
  obtain ⟨hreadable, hfits⟩ := readable_friendsDatabase m hm'
  refine ⟨hreadable.toSound, hfits, ?_, ?_, ?_⟩
  · have hdatabase : ∀ m ∈ [nameMap, knowsMap], m.relation.database.isSome := by decide
    apply hdatabase m hm
  · exact fun t ht => (clear_friendsDatabase m hm' t ht).1
  · intro k s hs row _ t ht
    exact TripleMap.unambiguous_view hs (fun t ht => (clear_friendsDatabase m hm' t ht).2) t ht row

/-- The second person is compared with an IRI. -/
theorem comparing_namedPerson (db : Database) (maps : List TripleMap) :
  ∀ f ∈ namedPerson.filters, Comparing db maps f
  := by
  intro f hf ms _ m _ xs _ x _ p hp v w _ hw
  rw [List.mem_singleton.1 hf] at hp
  rw [List.mem_singleton.1 hp] at hw
  cases hw
  right
  rfl

theorem exists_converted_perm_namedPerson :
  0 < 2 ∧ friendsDatabase.Rectangular ∧ (∀ m ∈ [nameMap, knowsMap], m.Served friendsDatabase)
    ∧ namedPerson.isUncut = true
    ∧ (∀ f ∈ namedPerson.filters, Comparing friendsDatabase [nameMap, knowsMap] f)
    ∧ (∀ m ∈ nameSolutions, (toSql? m isSecond).isSome)
    ∧ containsO ∈ (convertFilters [isSecond, containsO] nameSolutions).2
    ∧ ∃ plain, ofPattern [nameMap, knowsMap] false namedPerson = .ok plain
      ∧ plain.Delivers friendsDatabase 2 [.ok (namedBinding "ex:2" "Bob")]
      ∧ ∃ converted, ofPattern [nameMap, knowsMap] true namedPerson = .ok converted
        ∧ converted.Delivers friendsDatabase 2 [.ok (namedBinding "ex:2" "Bob")]
  := by
  have hplain : ofPattern [nameMap, knowsMap] false namedPerson
      = .ok (.filter (.maps nameSolutions) (.and [isSecond, containsO])) := by
    rw [namedPerson, ofPattern, solutionMaps_namePatterns]
    rfl
  obtain ⟨⟨converted, hconverted, xs, ys, hxs, hys, hperm⟩, hremains⟩ :=
    exists_converted_perm (n := 2) (by decide) rectangular_friendsDatabase served_friendsDatabase
      rfl (comparing_namedPerson _ _) hplain
  have hbob : ys = [namedBinding "ex:2" "Bob"] := by
    obtain ⟨as, has, rfl⟩ := ((answers_iff_delivers (by decide)).2 hys).of_filter (by decide)
    obtain ⟨as', has', hperm'⟩ := exists_answers_of_queryable (n := 2) (by decide)
      rectangular_friendsDatabase (queryable_of_solutionMaps rectangular_friendsDatabase
        served_friendsDatabase solutionMaps_namePatterns)
    rw [has.unique has', ← List.perm_singleton]
    rw [bindings_nameSolutions] at hperm'
    apply (hperm'.filter _).trans
    apply List.Perm.of_eq
    decide
  subst hbob
  rw [List.perm_singleton] at hperm
  subst hperm
  refine ⟨by decide, rectangular_friendsDatabase, served_friendsDatabase, rfl,
    comparing_namedPerson _ _, ?_, ?_, _, hplain, hys, converted, hconverted, hxs⟩
  · decide
  · apply hremains _ _ _ (List.mem_cons_of_mem _ (List.mem_singleton_self _))
    decide

end RelGraph.Engine.Plan
