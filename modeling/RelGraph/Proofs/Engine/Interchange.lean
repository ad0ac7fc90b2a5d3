import RelGraph.Proofs.Engine.Narrow
import RelGraph.Proofs.Engine.Sharing

/-!
# Plans that can be interchanged

Two plans can be interchanged if they answer with the same solutions, in some order and as often,
and so do the plans that are narrowed to a binding.  The operators that depend on all the solutions,
and not on their order, keep this: parts of a plan can be interchanged within it.
-/

namespace RelGraph.Engine.Plan

open Rdf Sql Sparql Mapping Machine

variable {db : Database} {n : Nat}

/-! ### Answers of operators -/

/-- Solution maps that can be read answer with the bindings that each of them gives. -/
theorem exists_answers_maps (hn : 0 < n) {ms : List SolutionMap} (hms : ∀ m ∈ ms, m.WellFormed)
    (h : ∀ m ∈ ms, ∃ rows, readRows db m.relation = .ok rows) :
  ∃ xs, (Plan.maps ms).Answers db n xs ∧ xs.Perm (ms.flatMap (ownItems db))
  := by
  have hanswer : ∀ g ∈ Group.ofList ms, ∃ is, g.answer db = .ok is := by
    intro g hg
    obtain ⟨rows, hrows⟩ := (Group.lawful_of_mem_ofList ms g hg).exists_readRows fun m hm =>
      h m (Group.mem_of_mem_ofList hg hm)
    use rows.flatMap g.items
    rw [Group.answer_eq, hrows]
    rfl
  choose! answers hanswers using hanswer
  have hitems : ((Group.ofList ms).flatMap fun g => delivered (g.answer db))
      = ((Group.ofList ms).flatMap answers).map .ok := by
    rw [List.map_flatMap]
    apply List.flatMap_congr
    intro g hg
    rw [hanswers g hg, delivered]
  have hgives := Solutions.gives_scan (@Scan.gives_groups SolutionMap _ _ db n hn (Group.ofList ms))
  rw [hitems] at hgives
  have hanswers : (Plan.maps ms).Answers db n ((Group.ofList ms).flatMap answers) := hgives
  exact ⟨_, hanswers, (hanswers.of_maps hn hms).2⟩

section

variable {p l r : Plan} {as bs : List Binding}

theorem Answers.join (hl : l.Answers db n as) (hr : r.Answers db n bs) :
  (Plan.join l r).Answers db n (as.flatMap (joined bs))
  := by
  have h := Solutions.gives_join hl hr
  rw [combined_map_ok, ← List.map_flatMap] at h
  apply h

theorem Answers.leftJoin {ys : Binding → List Binding} (hl : l.Answers db n as)
    (hr : ∀ a, (r.narrow a).Answers db n (ys a)) (e : Expression) :
  (Plan.leftJoin l r e).Answers db n (as.flatMap fun a => optionally (ys a) e a)
  := by
  have h : (Plan.leftJoin l r e).Yields db n _ := Solutions.gives_leftJoin (e := e) hl hr
  rw [forEach_map_ok] at h
  simp only [optionalItems_map_ok] at h
  rw [← List.map_flatMap] at h
  apply h

theorem Answers.filter (hp : p.Answers db n as) (e : Expression) :
  (Plan.filter p e).Answers db n (as.filter e.holds)
  := by
  have h := Solutions.gives_filter hp e
  rw [forEach_map_ok, flatMap_keep] at h
  apply h

theorem Answers.minus (hl : l.Answers db n as) (hr : r.Answers db n bs) :
  (Plan.minus l r).Answers db n (as.filter (survives bs))
  := by
  have h := Solutions.gives_minus hl hr
  rw [combined_map_ok, flatMap_keep] at h
  apply h

theorem Answers.extend (hp : p.Answers db n as) (v : Variable) (e : Expression) :
  (Plan.extend p v e).Answers db n (as.map (extended v e))
  := by
  have h := Solutions.gives_extend hp v e
  rw [forEach_map_ok, ← List.map_eq_flatMap] at h
  rw [Answers, List.map_map]
  apply h

theorem Answers.project (hp : p.Answers db n as) (vs : List Variable) :
  (Plan.project p vs).Answers db n (as.map (·.restrict vs))
  := by
  have h := Solutions.gives_project hp vs
  rw [forEach_map_ok, ← List.map_eq_flatMap] at h
  rw [Answers, List.map_map]
  apply h

theorem Answers.orderBy (hp : p.Answers db n as) (keys : List SortKey) :
  (Plan.orderBy p keys).Answers db n (sortBindings keys as)
  := by
  have h := Solutions.gives_sort hp keys
  rw [collected, collect_map_ok] at h
  apply h

theorem Answers.distinct (hp : p.Answers db n as) :
  (Plan.distinct p).Answers db n (Database.dedup [] as)
  := by
  have h := Solutions.gives_distinct hp []
  rw [keepNew_map_ok] at h
  apply h

theorem answers_values (bs : List Binding) :
  (Plan.values bs).Answers db n bs
  := Solutions.gives_ready bs

theorem answers_union {ps : List Plan} {xss : List (List Binding)}
    (h : List.Forall₂ (Answers db n) ps xss) :
  (Plan.union ps).Answers db n xss.flatten
  := by
  have hgives : (Plan.union ps).Yields db n (xss.map (·.map .ok)).flatten := by
    apply Solutions.gives_union
    rw [List.forall₂_map_right_iff]
    apply h
  rw [← List.map_flatten] at hgives
  apply hgives

end

/-! ### Plans with the same answers -/

/-- The plans answer with the same solutions, in some order. -/
def SameAnswers (db : Database) (n : Nat) (p q : Plan) : Prop :=
  ∃ xs ys, p.Answers db n xs ∧ q.Answers db n ys ∧ xs.Perm ys

namespace SameAnswers

variable {p q l l' r r' : Plan}

theorem join (hl : SameAnswers db n l l') (hr : SameAnswers db n r r') :
  SameAnswers db n (.join l r) (.join l' r')
  := by
  obtain ⟨as, as', has, has', hperm⟩ := hl
  obtain ⟨bs, bs', hbs, hbs', hperm'⟩ := hr
  refine ⟨_, _, has.join hbs, has'.join hbs', hperm.flatMap ?_⟩
  intro a _
  apply hperm'.filterMap

theorem leftJoin (hl : SameAnswers db n l l')
    (hr : ∀ b, SameAnswers db n (r.narrow b) (r'.narrow b)) (e : Expression) :
  SameAnswers db n (.leftJoin l r e) (.leftJoin l' r' e)
  := by
  obtain ⟨as, as', has, has', hperm⟩ := hl
  choose ys ys' hys hys' hperm' using hr
  refine ⟨_, _, has.leftJoin hys e, has'.leftJoin hys' e, hperm.flatMap ?_⟩
  intro a _
  apply perm_optionally ((hperm' a).filter _)

theorem filter (h : SameAnswers db n p q) (e : Expression) :
  SameAnswers db n (.filter p e) (.filter q e)
  := by
  obtain ⟨as, as', has, has', hperm⟩ := h
  exact ⟨_, _, has.filter e, has'.filter e, hperm.filter _⟩

theorem minus (hl : SameAnswers db n l l') (hr : SameAnswers db n r r') :
  SameAnswers db n (.minus l r) (.minus l' r')
  := by
  obtain ⟨as, as', has, has', hperm⟩ := hl
  obtain ⟨bs, bs', hbs, hbs', hperm'⟩ := hr
  have hsurvives : survives bs = survives bs' := by
    funext a
    apply hperm'.all_eq
  refine ⟨_, _, has.minus hbs, has'.minus hbs', ?_⟩
  rw [hsurvives]
  apply hperm.filter

theorem extend (h : SameAnswers db n p q) (v : Variable) (e : Expression) :
  SameAnswers db n (.extend p v e) (.extend q v e)
  := by
  obtain ⟨as, as', has, has', hperm⟩ := h
  exact ⟨_, _, has.extend v e, has'.extend v e, hperm.map _⟩

theorem project (h : SameAnswers db n p q) (vs : List Variable) :
  SameAnswers db n (.project p vs) (.project q vs)
  := by
  obtain ⟨as, as', has, has', hperm⟩ := h
  exact ⟨_, _, has.project vs, has'.project vs, hperm.map _⟩

theorem orderBy (h : SameAnswers db n p q) (keys : List SortKey) :
  SameAnswers db n (.orderBy p keys) (.orderBy q keys)
  := by
  obtain ⟨as, as', has, has', hperm⟩ := h
  refine ⟨_, _, has.orderBy keys, has'.orderBy keys, ?_⟩
  apply (List.mergeSort_perm as _).trans (hperm.trans (List.mergeSort_perm as' _).symm)

theorem distinct (h : SameAnswers db n p q) :
  SameAnswers db n (.distinct p) (.distinct q)
  := by
  obtain ⟨as, as', has, has', hperm⟩ := h
  exact ⟨_, _, has.distinct, has'.distinct, Database.perm_dedup fun a => hperm.mem_iff⟩

theorem union {ps qs : List Plan} (h : List.Forall₂ (SameAnswers db n) ps qs) :
  SameAnswers db n (.union ps) (.union qs)
  := by
  have hlists : ∃ xss yss, List.Forall₂ (Answers db n) ps xss ∧ List.Forall₂ (Answers db n) qs yss
      ∧ xss.flatten.Perm yss.flatten := by
    induction h with
    | nil => exact ⟨[], [], .nil, .nil, .refl _⟩
    | cons h _ ih =>
      obtain ⟨xs, ys, hxs, hys, hperm⟩ := h
      obtain ⟨xss, yss, hxss, hyss, hperms⟩ := ih
      exact ⟨xs :: xss, ys :: yss, .cons hxs hxss, .cons hys hyss, hperm.append hperms⟩
  obtain ⟨xss, yss, hxss, hyss, hperm⟩ := hlists
  exact ⟨_, _, answers_union hxss, answers_union hyss, hperm⟩

end SameAnswers

/-! ### Plans that can be interchanged -/

/-- The plans have the same answers, also when they are narrowed to a binding. -/
structure Interchangeable (db : Database) (n : Nat) (p q : Plan) : Prop where
  answers : SameAnswers db n p q
  narrowed : ∀ b, SameAnswers db n (p.narrow b) (q.narrow b)

namespace Interchangeable

variable {p q l l' r r' : Plan}

theorem join (hl : Interchangeable db n l l') (hr : Interchangeable db n r r') :
  Interchangeable db n (.join l r) (.join l' r')
  := ⟨hl.answers.join hr.answers, fun b => (hl.narrowed b).join (hr.narrowed b)⟩

/-- Only the left plan is narrowed, and the right one to the left solutions. -/
theorem leftJoin (hl : Interchangeable db n l l') (hr : Interchangeable db n r r')
    (e : Expression) :
  Interchangeable db n (.leftJoin l r e) (.leftJoin l' r' e)
  := ⟨hl.answers.leftJoin hr.narrowed e, fun b => (hl.narrowed b).leftJoin hr.narrowed e⟩

theorem filter (h : Interchangeable db n p q) (e : Expression) :
  Interchangeable db n (.filter p e) (.filter q e)
  := ⟨h.answers.filter e, fun b => (h.narrowed b).filter e⟩

theorem minus (hl : Interchangeable db n l l') (hr : Interchangeable db n r r') :
  Interchangeable db n (.minus l r) (.minus l' r')
  := ⟨hl.answers.minus hr.answers, fun b => (hl.narrowed b).minus hr.answers⟩

theorem extend (h : Interchangeable db n p q) (v : Variable) (e : Expression) :
  Interchangeable db n (.extend p v e) (.extend q v e)
  := ⟨h.answers.extend v e, fun b => (h.narrowed (b.erase v)).extend v e⟩

theorem project (h : Interchangeable db n p q) (vs : List Variable) :
  Interchangeable db n (.project p vs) (.project q vs)
  := ⟨h.answers.project vs, fun b => (h.narrowed (b.restrict vs)).project vs⟩

theorem orderBy (h : Interchangeable db n p q) (keys : List SortKey) :
  Interchangeable db n (.orderBy p keys) (.orderBy q keys)
  := ⟨h.answers.orderBy keys, fun b => (h.narrowed b).orderBy keys⟩

theorem distinct (h : Interchangeable db n p q) :
  Interchangeable db n (.distinct p) (.distinct q)
  := ⟨h.answers.distinct, fun b => (h.narrowed b).distinct⟩

theorem values (bs : List Binding) :
  Interchangeable db n (.values bs) (.values bs)
  := ⟨⟨_, _, answers_values bs, answers_values bs, .refl _⟩,
    fun _ => ⟨_, _, answers_values _, answers_values _, .refl _⟩⟩

theorem union {ps qs : List Plan} (h : List.Forall₂ (Interchangeable db n) ps qs) :
  Interchangeable db n (.union ps) (.union qs)
  := by
  constructor
  · apply SameAnswers.union (h.imp fun _ _ h => h.answers)
  · intro b
    rw [narrow, narrow, narrowAll_eq_map, narrowAll_eq_map]
    apply SameAnswers.union
    rw [List.forall₂_map_left_iff, List.forall₂_map_right_iff]
    apply h.imp fun _ _ h => h.narrowed b

end Interchangeable

end RelGraph.Engine.Plan
