import Mathlib.Data.List.Basic
import RelGraph.Proofs.Sparql.Clauses
import RelGraph.Proofs.Sparql.Solutions
import RelGraph.Proofs.Sparql.Variables

/-!
# Pushing filters down keeps the solutions

Pushing conditions into a pattern selects those of its solutions on which all the conditions
hold, in the same order and as often.  With no conditions to begin with, the filters of a
pattern move down and its list of solutions stays the same.
-/

namespace RelGraph.Sparql

open Rdf Engine Sql

/-- Some conditions hold together on a solution. -/
def meets (fs : List Expression) (b : Binding) : Bool := fs.all fun e => e.holds b

theorem meets_iff {fs : List Expression} {b : Binding} :
  meets fs b = true ↔ ∀ e ∈ fs, e.holds b = true
  := List.all_eq_true

theorem meets_append (fs gs : List Expression) (b : Binding) :
  meets (fs ++ gs) b = (meets fs b && meets gs b)
  := List.all_append

theorem meets_split (e : Expression) :
  meets e.split = e.holds
  := by
  funext b
  apply Expression.all_holds_split

/-- Conditions that are shared out among three groups, possibly more than once, hold when those
of each group do. -/
theorem meets_partition (fs : List Expression) (inLeft inRight : Expression → Bool) (b : Binding) :
  meets fs b = (meets (fs.filter inLeft) b && meets (fs.filter inRight) b
    && meets (fs.filter fun e => !inLeft e && !inRight e) b)
  := by
  rw [Bool.eq_iff_iff]
  simp only [Bool.and_eq_true, meets_iff, List.mem_filter, Bool.not_eq_true']
  constructor
  · intro h
    refine ⟨⟨?_, ?_⟩, ?_⟩ <;> · rintro e ⟨he, -⟩; apply h e he
  · rintro ⟨⟨hl, hr⟩, ho⟩ e he
    cases hel : inLeft e with
    | true => apply hl e ⟨he, hel⟩
    | false =>
      cases her : inRight e with
      | true => apply hr e ⟨he, her⟩
      | false => apply ho e ⟨he, hel, her⟩

/-- Conditions may be tested on another binding that agrees about each of them. -/
theorem meets_congr {fs : List Expression} {a b : Binding}
    (h : ∀ e ∈ fs, e.holds a = e.holds b) :
  meets fs a = meets fs b
  := by
  rw [Bool.eq_iff_iff, meets_iff, meets_iff]
  apply forall₂_congr
  intro e he
  rw [h e he]

theorem flatMap_filter {α γ : Type} (p : α → Bool) (f : α → List γ) (l : List α) :
  (l.filter p).flatMap f = l.flatMap fun a => if p a then f a else []
  := by
  induction l with
  | nil => rfl
  | cons a l ih =>
    rw [List.flatMap_cons, ← ih, List.filter_cons]
    split <;> simp

namespace Pattern

variable {β : List TriplePattern → List Binding}

/-! ### Building patterns -/

theorem solutions_filterBy (p : Pattern) (condition : Expression) :
  solutions β (p.filterBy condition) = (solutions β p).filter condition.holds
  := by
  rw [filterBy]
  split
  · rename_i h
    symm
    rw [List.filter_eq_self]
    intro b _
    rw [Expression.holds_iff, Expression.truthOn_of_truth? h]
  · rw [solutions]

theorem solutions_filterBy_andAll (p : Pattern) (fs : List Expression) :
  solutions β (p.filterBy (.andAll fs)) = (solutions β p).filter (meets fs)
  := by
  rw [solutions_filterBy]
  apply List.filter_congr
  intro b _
  apply Expression.holds_andAll

theorem solutions_branchesOf (ps : List Pattern) :
  (branchesOf ps).flatMap (solutions β) = ps.flatMap (solutions β)
  := by
  fun_induction branchesOf ps with
  | case1 => rfl
  | case2 inner ps ih =>
    rw [List.flatMap_append, ih, List.flatMap_cons, solutions, solutionsOfAll_eq_flatMap]
  | case3 p ps _ ih => rw [List.flatMap_cons, ih, List.flatMap_cons]

theorem solutions_unionAll (ps : List Pattern) :
  solutions β (unionAll ps) = ps.flatMap (solutions β)
  := by
  rw [← solutions_branchesOf, unionAll]
  split
  · rename_i p h
    rw [h, List.flatMap_singleton]
  · rw [solutions, solutionsOfAll_eq_flatMap]

theorem pushAll_eq_map (ps : List Pattern) (fs : List Expression) :
  pushAll ps fs = ps.map fun p => push p fs
  := by
  induction ps with
  | nil => rfl
  | cons p ps ih => rw [pushAll, ih, List.map_cons]

end Pattern

/-! ### Joins -/

section Joins

variable {L R : List Binding} {fs : List Expression} {inLeft inRight : Expression → Bool}

/-- Every solution of a list has a term for each variable of each condition of a kind. -/
def Covers (L : List Binding) (kind : Expression → Bool) : Prop :=
  ∀ e, kind e = true → ∀ a ∈ L, ∀ v ∈ e.variableList, (a.get? v).isSome

/-- The conditions of the left side hold on a union when they hold on its left part. -/
theorem meets_merge_left (hl : Covers L inLeft) {a c m : Binding} (ha : a ∈ L)
    (hm : a.merge? c = some m) :
  meets (fs.filter inLeft) m = meets (fs.filter inLeft) a
  := by
  apply meets_congr
  intro e he
  apply Expression.holds_merge_left hm
  apply hl e (List.mem_filter.1 he).2 a ha

theorem meets_merge_right (hr : Covers R inRight) {a c m : Binding} (hc : c ∈ R)
    (hm : a.merge? c = some m) :
  meets (fs.filter inRight) m = meets (fs.filter inRight) c
  := by
  apply meets_congr
  intro e he
  apply Expression.holds_merge_right hm
  intro v hv
  apply Or.inl (hr e (List.mem_filter.1 he).2 c hc v hv)

/-- The unions with selected right solutions, as a selection from all the unions. -/
theorem joined_filter (p : Binding → Bool) (a : Binding) :
  joined (R.filter p) a = R.filterMap fun c => if p c then a.merge? c else none
  := by
  rw [joined, List.filterMap_filter]

theorem filter_joined (p : Binding → Bool) (a : Binding) :
  (joined R a).filter p = R.filterMap fun c => (a.merge? c).filter p
  := by
  rw [joined, List.filter_filterMap]

/-- Conditions on the solutions of a join may be tested on the sides that have their variables. -/
theorem filter_flatMap_joined (hl : Covers L inLeft) (hr : Covers R inRight) :
  (L.flatMap (joined R)).filter (meets fs)
    = ((L.filter (meets (fs.filter inLeft))).flatMap
        (joined (R.filter (meets (fs.filter inRight))))).filter
      (meets (fs.filter fun e => !inLeft e && !inRight e))
  := by
  rw [flatMap_filter, List.filter_flatMap, List.filter_flatMap]
  apply List.flatMap_congr
  intro a ha
  have hsplit : ∀ c ∈ R, ∀ m, a.merge? c = some m → meets fs m
      = (meets (fs.filter inLeft) a && meets (fs.filter inRight) c
        && meets (fs.filter fun e => !inLeft e && !inRight e) m) := by
    intro c hc m hm
    rw [meets_partition fs inLeft inRight, meets_merge_left hl ha hm, meets_merge_right hr hc hm]
  rw [filter_joined]
  cases hp : meets (fs.filter inLeft) a with
  | false =>
    simp only [Bool.false_eq_true, if_false, List.filter_nil, List.filterMap_eq_nil_iff]
    intro c hc
    rw [Option.filter_eq_none_iff]
    intro m hm
    simp [hsplit c hc m hm, hp]
  | true =>
    rw [if_pos rfl, joined_filter, List.filter_filterMap]
    apply List.filterMap_congr
    intro c hc
    cases hm : a.merge? c with
    | none => simp
    | some m =>
      rw [Option.filter_some, hsplit c hc m hm, hp, Bool.true_and]
      cases meets (fs.filter inRight) c <;> simp [Option.filter_some]

/-- Right solutions may be selected by conditions which, on the unions with a left solution, come
to the same as one condition being replaced by another. -/
theorem optionally_filter {p : Binding → Bool} {condition condition' : Expression} {a : Binding}
    (h : ∀ c ∈ R, ∀ m, a.merge? c = some m → condition.holds m = (p c && condition'.holds m)) :
  optionally (R.filter p) condition' a = optionally R condition a
  := by
  have hfound : (joined (R.filter p) a).filter condition'.holds
      = (joined R a).filter condition.holds := by
    rw [joined_filter, List.filter_filterMap, filter_joined]
    apply List.filterMap_congr
    intro c hc
    cases hm : a.merge? c with
    | none => simp
    | some m =>
      rw [Option.filter_some, h c hc m hm]
      cases p c <;> simp [Option.filter_some]
  rw [optionally, hfound, optionally]

/-- Conditions on the solutions of a left join may be tested on the left side if it has their
variables. -/
theorem filter_flatMap_optionally (hl : Covers L inLeft) (condition : Expression) :
  (L.flatMap (optionally R condition)).filter (meets fs)
    = ((L.filter (meets (fs.filter inLeft))).flatMap (optionally R condition)).filter
      (meets (fs.filter fun e => !inLeft e))
  := by
  rw [flatMap_filter, List.filter_flatMap, List.filter_flatMap]
  apply List.flatMap_congr
  intro a ha
  have hsplit : ∀ m ∈ optionally R condition a, meets fs m
      = (meets (fs.filter inLeft) a && meets (fs.filter fun e => !inLeft e) m) := by
    intro m hm
    have hleft : meets (fs.filter inLeft) m = meets (fs.filter inLeft) a := by
      obtain rfl | ⟨c, _, hm⟩ := mem_optionally hm
      · rfl
      · apply meets_merge_left hl ha hm
    rw [meets_partition fs inLeft fun _ => false, hleft]
    simp [meets]
  cases hp : meets (fs.filter inLeft) a with
  | false =>
    simp only [Bool.false_eq_true, if_false, List.filter_nil, List.filter_eq_nil_iff]
    intro m hm
    simp [hsplit m hm, hp]
  | true =>
    rw [if_pos rfl]
    apply List.filter_congr
    intro m hm
    rw [hsplit m hm, hp, Bool.true_and]

end Joins

namespace Pattern

variable {β : List TriplePattern → List Binding}

theorem covers_certain (hβ : Exact β) (p : Pattern) :
  Covers (solutions β p) fun e => e.closedBy p.certainVariables
  := by
  intro e he a ha v hv
  apply binds_of_certain hβ ha (Expression.closedBy_iff.1 he v hv)

theorem filter_meets_nil (bs : List Binding) :
  bs.filter (meets []) = bs
  := List.filter_true bs

/-- The condition of a left join may be tested on the right side alone if that has its variables,
or if the left side has none of them. -/
theorem holds_of_moves (hβ : Exact β) {l r : Pattern} {condition : Expression}
    (h : (condition.closedBy r.certainVariables || condition.disjointFrom l.possibleVariables)
      = true)
    {a c m : Binding} (ha : a ∈ solutions β l) (hc : c ∈ solutions β r)
    (hm : a.merge? c = some m) :
  condition.holds m = condition.holds c
  := by
  apply Expression.holds_merge_right hm
  intro v hv
  rw [Bool.or_eq_true] at h
  obtain hr | hl := h
  · left
    apply covers_certain hβ r condition hr c hc v hv
  · right
    cases hav : a.get? v with
    | none => rfl
    | some t =>
      exfalso
      apply Expression.disjointFrom_iff.1 hl v hv
      apply possible_of_binds hβ ha
      rw [Binding.binds_eq, hav]
      rfl

/-- Conditions that hold on the left solution, and whose variables both sides have, hold on all
right solutions that are compatible with it. -/
theorem meets_shared (hβ : Exact β) {l r : Pattern} {fs : List Expression} {a c m : Binding}
    (ha : a ∈ solutions β l) (hc : c ∈ solutions β r) (hm : a.merge? c = some m)
    (hfs : meets (fs.filter fun e => e.closedBy l.certainVariables) a = true) :
  meets (fs.filter fun e => e.closedBy l.certainVariables && e.closedBy r.certainVariables) c
    = true
  := by
  rw [meets_iff]
  intro e he
  rw [List.mem_filter, Bool.and_eq_true] at he
  obtain ⟨he, hl, hr⟩ := he
  rw [← Expression.holds_merge_right hm fun v hv =>
      Or.inl (covers_certain hβ r e hr c hc v hv),
    Expression.holds_merge_left hm (covers_certain hβ l e hl a ha)]
  apply meets_iff.1 hfs
  rw [List.mem_filter]
  use he

/-- Conditions that do not mention the variable of an extension may be tested before it. -/
theorem meets_extended (fs : List Expression) (v : Variable) (e : Expression) (b : Binding) :
  meets fs (extended v e b)
    = (meets (fs.filter fun f => f.variableSet.contains v) (extended v e b)
      && meets (fs.filter fun f => !f.variableSet.contains v) b)
  := by
  rw [meets_partition fs (fun f => f.variableSet.contains v)
    (fun f => !f.variableSet.contains v) (extended v e b)]
  have hrest : (fs.filter fun f => !f.variableSet.contains v && !!f.variableSet.contains v)
      = [] := by
    simp
  have hbefore : meets (fs.filter fun f => !f.variableSet.contains v) (extended v e b)
      = meets (fs.filter fun f => !f.variableSet.contains v) b := by
    apply meets_congr
    intro f hf
    apply Expression.holds_congr
    intro w hw
    apply get?_extended_of_ne
    rintro rfl
    simp [Expression.variableSet, hw] at hf
  rw [hrest, hbefore, show meets [] (extended v e b) = true from rfl, Bool.and_true]

/-- Pushing conditions into a pattern selects the solutions on which they hold. -/
theorem solutions_push (hβ : Exact β) (p : Pattern) (fs : List Expression) :
  solutions β (push p fs) = (solutions β p).filter (meets fs)
  := by
  induction p generalizing fs with
  | bgp ps => rw [push, solutions_filterBy_andAll]
  | values vs rows => rw [push, solutions_filterBy_andAll]
  | filter e p ih =>
    rw [push, ih, solutions, List.filter_filter]
    apply List.filter_congr
    intro b _
    rw [meets_append, meets_split]
  | join l r ihl ihr =>
    rw [push, solutions_filterBy_andAll, solutions, ihl, ihr, solutions,
      ← filter_flatMap_joined (covers_certain hβ l) (covers_certain hβ r)]
  | leftJoin l r e ihl ihr =>
    rw [push, solutions_filterBy_andAll, solutions, ihl, ihr, solutions,
      filter_flatMap_optionally (covers_certain hβ l)]
    congr 1
    apply List.flatMap_congr
    intro a ha
    rw [List.mem_filter] at ha
    apply optionally_filter
    intro c hc m hm
    split
    · -- the condition has moved to the right side
      rename_i hmoves
      rw [meets_append, meets_shared hβ ha.1 hc hm ha.2, meets_split,
        holds_of_moves hβ (Bool.and_eq_true_iff.1 hmoves).2 ha.1 hc hm, Bool.true_and,
        Expression.holds_iff.2 (Expression.truthOn_ofBool true m), Bool.and_true]
    · rw [meets_shared hβ ha.1 hc hm ha.2, Bool.true_and]
  | union ps ih =>
    rw [push, solutions_unionAll, pushAll_eq_map, List.flatMap_map, solutions,
      solutionsOfAll_eq_flatMap, List.filter_flatMap]
    apply List.flatMap_congr
    intro p hp
    apply ih p hp
  | minus l r ihl ihr =>
    rw [push, solutions, ihl, ihr, filter_meets_nil, solutions, List.filter_filter,
      List.filter_filter]
    apply List.filter_congr
    intro b _
    apply Bool.and_comm
  | extend p v e ih =>
    rw [push, solutions_filterBy_andAll, solutions, ih, solutions, List.filter_map,
      List.filter_map, List.filter_filter]
    congr 1
    apply List.filter_congr
    intro b _
    apply (meets_extended fs v e b).symm
  | orderBy p keys ih =>
    rw [push, solutions_filterBy_andAll, solutions, ih, filter_meets_nil, solutions]
  | project p vs ih =>
    rw [push, solutions_filterBy_andAll, solutions, ih, filter_meets_nil, solutions]
  | distinct p ih =>
    rw [push, solutions_filterBy_andAll, solutions, ih, filter_meets_nil, solutions]
  | reduced p ih =>
    rw [push, solutions_filterBy_andAll, solutions, ih, filter_meets_nil, solutions]
  | slice p start length ih =>
    rw [push, solutions_filterBy_andAll, solutions, ih, filter_meets_nil, solutions]

/-- A pattern has the same solutions, in the same order and as often, when its filters are pushed
down. -/
theorem solutions_pushFilters (hβ : Exact β) (p : Pattern) :
  solutions β (pushFilters p) = solutions β p
  := by
  rw [pushFilters, solutions_push hβ, filter_meets_nil]

/-- Two solutions of any triple patterns, which give one term to all variables. -/
def uniformSolutions (ps : List TriplePattern) : List Binding :=
  [.ofList ((tripleVariables ps).map fun v => (v, .literal (.simple "a"))),
   .ofList ((tripleVariables ps).map fun v => (v, .literal (.simple "b")))]

theorem exact_uniformSolutions :
  Exact uniformSolutions
  := by
  intro ps b hb v
  simp only [uniformSolutions, List.mem_cons, List.not_mem_nil, or_false] at hb
  obtain rfl | rfl := hb <;> simp [Binding.binds_ofList]

/-- An optional part with a condition of its own, under a filter on a variable of both sides. -/
def filteredOptional : Pattern :=
  let x := Variable.mk "x"
  let y := Variable.mk "y"
  let p := Position.term (.iri ⟨"p"⟩)
  .filter (.and [.equal (.variable x) (.literal (.simple "a")), .not (.bound y)])
    (.leftJoin (.bgp [⟨.variable x, p, .variable x⟩]) (.bgp [⟨.variable x, p, .variable y⟩])
      (.equal (.variable y) (.literal (.simple "b"))))

theorem solutions_pushFilters_filteredOptional :
  Exact uniformSolutions
    ∧ solutions uniformSolutions (pushFilters filteredOptional)
      = solutions uniformSolutions filteredOptional
  := ⟨exact_uniformSolutions, solutions_pushFilters exact_uniformSolutions filteredOptional⟩

end Pattern

end RelGraph.Sparql
