import Mathlib.Data.Set.Lattice
import RelGraph.Proofs.Engine.Conversion

/-!
# Bounds on the variables of solutions

Which variables a solution binds is known, within bounds, before anything is read: some are bound
for certain, and others are possibly bound.  A plan has the bounds of its pattern, also if filters
are converted and if the plan is narrowed.
-/

namespace RelGraph.Mapping

open Rdf Sql Sparql

/-! ### Solution maps -/

namespace SolutionMap

/-- The solution map has a term map for the variable. -/
def binds (m : SolutionMap) (v : Variable) : Bool := (m.terms.get? v).isSome

/-- A row gives a term to each variable of the solution map, and to no other one. -/
theorem binds_of_make? {m : SolutionMap} {row : Row} {b : Binding} (h : m.make? row = some b) :
  b.binds = m.binds
  := by
  obtain ⟨hsome, hget, -⟩ := make?_eq_some_iff.1 h
  funext v
  rw [Binding.binds_eq, binds, Bool.eq_iff_iff]
  constructor
  · intro hv
    rw [hget v] at hv
    exact Option.isSome_of_isSome_bind hv
  · exact hsome v

theorem binds_of_substitute? {m m' : SolutionMap} {b : Binding} (h : m.substitute? b = some m') :
  m'.binds = m.binds
  := by
  rw [substitute?_eq] at h
  split at h
  · cases h
  · split at h
    · cases h
    · cases h
      funext v
      rw [binds, binds, build, get?_fixedTerms, Option.isSome_map]

theorem binds_selectAll (es : List Expression) (m : SolutionMap) :
  (Engine.Plan.selectAll es m).binds = m.binds
  := by
  induction es generalizing m with
  | nil => rfl
  | cons e es ih =>
    rw [Engine.Plan.selectAll, List.foldl_cons]
    apply (ih _).trans
    rw [Engine.Plan.selectIn]
    split <;> rfl

end SolutionMap

theorem Choice.map_fst_occurrences (c : Choice) :
  c.occurrences.map (·.1) = c.1.variableList
  := by
  obtain ⟨⟨subject, predicate, object⟩, m⟩ := c
  simp only [occurrences, TriplePattern.positions, TripleMap.termMaps, TriplePattern.variableList,
    List.zip_cons_cons, List.zip_nil_right, List.filterMap_cons, List.filterMap_nil]
  cases subject.asVariable? <;> cases predicate.asVariable? <;> cases object.asVariable? <;> rfl

theorem Assignment.Collected.isSome_iff {compared : List Variable}
    {occurrences checks : List (Variable × TermMap)} {terms : SortedMap Variable TermMap}
    (h : Collected compared occurrences terms checks) {v : Variable} :
  (terms.get? v).isSome = true ↔ v ∈ occurrences.map (·.1)
  := by
  constructor
  · intro hv
    obtain ⟨t, ht⟩ := Option.isSome_iff_exists.1 hv
    exact List.mem_map_of_mem (h.terms_mem v t ht)
  · intro hv
    obtain ⟨o, ho, rfl⟩ := List.mem_map.1 hv
    exact h.mem_terms o ho

/-- The solution maps of some triple patterns have the variables of the patterns. -/
theorem binds_of_mem_solutionMaps {ps : List TriplePattern} {maps : List TripleMap}
    {ms : List SolutionMap} (h : solutionMaps ps maps = .ok ms) {m : SolutionMap} (hm : m ∈ ms)
    {v : Variable} :
  m.binds v = true ↔ v ∈ Pattern.tripleVariables ps
  := by
  rw [Pattern.tripleVariables, mem_canonical]
  obtain ⟨rfl, rfl⟩ | ⟨-, rfl⟩ | ⟨found, ordered, hfound, hordered, -, hmem⟩ := solutionMaps_cases h
  · rw [List.mem_singleton.1 hm]
    simp [SolutionMap.binds, SolutionMap.trivial]
  · cases hm
  · obtain ⟨-, a, ha, hsolution⟩ := (hmem m).1 hm
    obtain ⟨choices, hchooses, hchoices⟩ := Assignment.exists_chooses_of_mem_found ha
    obtain ⟨joined, terms, checks, -, hcollected, rfl⟩ := Assignment.toSolutionMap_eq_ok hsolution
    rw [(Assignment.agreesAll_of_ofChoices? hchoices).1] at hcollected
    have hpatterns : (choices.map (·.1)).Perm ps := by
      rw [hchooses.map_fst, ← map_fst_of_allCandidates hfound]
      exact hordered.map (·.1)
    calc (terms.get? v).isSome = true
        ↔ v ∈ (choices.flatMap Choice.occurrences).map (·.1) := hcollected.isSome_iff
      _ ↔ v ∈ (choices.map (·.1)).flatMap TriplePattern.variableList := by
        rw [List.map_flatMap, List.flatMap_map]
        simp only [Choice.map_fst_occurrences]
      _ ↔ v ∈ ps.flatMap TriplePattern.variableList := (hpatterns.flatMap_right _).mem_iff

end RelGraph.Mapping

namespace RelGraph.Engine

open Rdf Sql Sparql Mapping

/-! ### Bounds -/

/-- Variables that are bound for certain, and variables that are possibly bound. -/
@[ext]
structure Bounds where
  certain : Set Variable
  possible : Set Variable

namespace Bounds

/-- Tighter bounds are smaller. -/
instance : PartialOrder Bounds where
  le β γ := γ.certain ⊆ β.certain ∧ β.possible ⊆ γ.possible
  le_refl _ := ⟨subset_rfl, subset_rfl⟩
  le_trans _ _ _ h k := ⟨k.1.trans h.1, h.2.trans k.2⟩
  le_antisymm _ _ h k := Bounds.ext (k.1.antisymm h.1) (h.2.antisymm k.2)

/-- The bounds of what is in the one or the other. -/
instance : SemilatticeSup Bounds where
  sup β γ := ⟨β.certain ∩ γ.certain, β.possible ∪ γ.possible⟩
  le_sup_left _ _ := ⟨Set.inter_subset_left, Set.subset_union_left⟩
  le_sup_right _ _ := ⟨Set.inter_subset_right, Set.subset_union_right⟩
  sup_le _ _ _ h k := ⟨Set.subset_inter h.1 k.1, Set.union_subset h.2 k.2⟩

/-- The bounds of nothing. -/
instance : OrderBot Bounds where
  bot := ⟨Set.univ, ∅⟩
  bot_le _ := ⟨Set.subset_univ _, Set.empty_subset _⟩

/-- The variables that are bound are within the bounds. -/
def Admits (β : Bounds) (binds : Variable → Bool) : Prop :=
  (∀ v ∈ β.certain, binds v = true) ∧ ∀ v, binds v = true → v ∈ β.possible

/-- The bounds of some things that bind variables. -/
def hull {α : Type} (binds : α → Variable → Bool) (xs : List α) : Bounds where
  certain := {v | ∀ x ∈ xs, binds x v = true}
  possible := {v | ∃ x ∈ xs, binds x v = true}

/-- The bounds of the unions of what is in the one and what is in the other. -/
def both (β γ : Bounds) : Bounds where
  certain := β.certain ∪ γ.certain
  possible := β.possible ∪ γ.possible

/-- The bounds of what is in the one, possibly with something in the other. -/
def optional (β γ : Bounds) : Bounds where
  certain := β.certain
  possible := β.possible ∪ γ.possible

/-- The bounds with one more variable that is possibly bound. -/
def adding (v : Variable) (β : Bounds) : Bounds where
  certain := β.certain
  possible := insert v β.possible

/-- The bounds of what is left if no variables but some are bound. -/
def only (vs : List Variable) (β : Bounds) : Bounds where
  certain := {v | v ∈ vs ∧ v ∈ β.certain}
  possible := {v | v ∈ vs ∧ v ∈ β.possible}

section

variable {α : Type} {β β' γ γ' : Bounds} {binds : Variable → Bool} {f : α → Variable → Bool}
  {x : α} {xs ys : List α}

theorem Admits.mono (h : β.Admits binds) (hle : β ≤ γ) : γ.Admits binds :=
  ⟨fun v hv => h.1 v (hle.1 hv), fun v hv => hle.2 (h.2 v hv)⟩

theorem hull_le_iff : hull f xs ≤ β ↔ ∀ x ∈ xs, β.Admits (f x) := by
  constructor
  · intro h x hx
    exact ⟨fun v hv => h.1 hv x hx, fun v hv => h.2 ⟨x, hx, hv⟩⟩
  · intro h
    exact ⟨fun v hv x hx => (h x hx).1 v hv, fun v ⟨x, hx, hv⟩ => (h x hx).2 v hv⟩

theorem admits_hull (h : x ∈ xs) : (hull f xs).Admits (f x) := hull_le_iff.1 le_rfl x h

theorem hull_nil_le : hull f [] ≤ β := hull_le_iff.2 (by simp)

theorem hull_cons_le (hx : β.Admits (f x)) (hxs : hull f xs ≤ β) : hull f (x :: xs) ≤ β :=
  hull_le_iff.2 (List.forall_mem_cons.2 ⟨hx, hull_le_iff.1 hxs⟩)

theorem hull_le_hull (h : ∀ x ∈ xs, x ∈ ys) : hull f xs ≤ hull f ys :=
  hull_le_iff.2 fun x hx => admits_hull (h x hx)

theorem both_mono (h : β ≤ β') (k : γ ≤ γ') : β.both γ ≤ β'.both γ' :=
  ⟨Set.union_subset_union h.1 k.1, Set.union_subset_union h.2 k.2⟩

theorem optional_mono (h : β ≤ β') (k : γ ≤ γ') : β.optional γ ≤ β'.optional γ' :=
  ⟨h.1, Set.union_subset_union h.2 k.2⟩

theorem adding_mono (v : Variable) (h : β ≤ γ) : adding v β ≤ adding v γ :=
  ⟨h.1, Set.insert_subset_insert h.2⟩

theorem only_mono (vs : List Variable) (h : β ≤ γ) : only vs β ≤ only vs γ :=
  ⟨fun _ hv => ⟨hv.1, h.1 hv.2⟩, fun _ hv => ⟨hv.1, h.2 hv.2⟩⟩

theorem le_optional : β ≤ β.optional γ := ⟨subset_rfl, Set.subset_union_left⟩

theorem both_le_optional : β.both γ ≤ β.optional γ := ⟨Set.subset_union_left, subset_rfl⟩

theorem admits_both {a b m : Binding} (ha : β.Admits a.binds) (hb : γ.Admits b.binds)
    (hm : a.merge? b = some m) :
  (β.both γ).Admits m.binds
  := by
  have hbinds := Binding.binds_merge hm
  constructor
  · rintro v (hv | hv)
    · exact (hbinds v).2 (.inl (ha.1 v hv))
    · exact (hbinds v).2 (.inr (hb.1 v hv))
  · intro v hv
    exact ((hbinds v).1 hv).imp (ha.2 v) (hb.2 v)

theorem hull_merge_le {b : Binding} {found : List Binding} (hb : β.Admits b.binds)
    (hfound : hull Binding.binds found ≤ γ) :
  hull Binding.binds (found.filterMap b.merge?) ≤ β.both γ
  := by
  rw [hull_le_iff] at hfound ⊢
  intro m hm
  obtain ⟨c, hc, hm⟩ := List.mem_filterMap.1 hm
  exact admits_both hb (hfound c hc) hm

theorem admits_adding {b : Binding} (v : Variable) (e : Expression) (h : β.Admits b.binds) :
  (adding v β).Admits (extended v e b).binds
  := by
  constructor
  · intro w hw
    apply Binding.binds_of_le _ (h.1 w hw)
    intro w t
    apply get?_extended_of_some
  · intro w hw
    exact (Pattern.binds_extended hw).imp_right (h.2 w)

theorem admits_only {b : Binding} (vs : List Variable) (h : β.Admits b.binds) :
  (only vs β).Admits (b.restrict vs).binds
  := by
  constructor
  · rintro v ⟨hvs, hv⟩
    exact Binding.binds_restrict.2 ⟨hvs, h.1 v hv⟩
  · intro v hv
    obtain ⟨hvs, hv⟩ := Binding.binds_restrict.1 hv
    exact ⟨hvs, h.2 v hv⟩

end

end Bounds

/-! ### Plans -/

namespace Plan

open Bounds

mutual

/-- The bounds of the solutions of a plan. -/
def bounds : Plan → Bounds
  | .maps ms => hull SolutionMap.binds ms
  | .join l r => (bounds l).both (bounds r)
  | .leftJoin l r _ => (bounds l).optional (bounds r)
  | .filter p _ => bounds p
  | .union ps => boundsOfAll ps
  | .minus l _ => bounds l
  | .extend p v _ => adding v (bounds p)
  | .values bs => hull Binding.binds bs
  | .orderBy p _ => bounds p
  | .project p vs => only vs (bounds p)
  | .distinct p => bounds p
  | .reduced p => bounds p
  | .slice p _ _ => bounds p

/-- The bounds of the solutions of some plans. -/
def boundsOfAll : List Plan → Bounds
  | [] => ⊥
  | p :: ps => bounds p ⊔ boundsOfAll ps

end

theorem boundsOfAll_le_iff {ps : List Plan} {β : Bounds} :
  boundsOfAll ps ≤ β ↔ ∀ p ∈ ps, p.bounds ≤ β
  := by
  induction ps with
  | nil => simp [boundsOfAll]
  | cons p ps ih => rw [boundsOfAll, sup_le_iff, ih, List.forall_mem_cons]

/-- Narrowing a plan keeps the bounds. -/
theorem bounds_narrow_le (p : Plan) (b : Binding) : (p.narrow b).bounds ≤ p.bounds := by
  induction p generalizing b with
  | maps ms =>
    apply hull_le_iff.2
    intro m' hm'
    obtain ⟨m, hm, hm'⟩ := List.mem_filterMap.1 hm'
    rw [SolutionMap.binds_of_substitute? hm']
    exact admits_hull hm
  | join l r ihl ihr => exact both_mono (ihl b) (ihr b)
  | leftJoin l r e ihl _ => exact optional_mono (ihl b) le_rfl
  | filter p e ih => exact ih b
  | union ps ih =>
    rw [narrow, bounds, bounds, narrowAll_eq_map, boundsOfAll_le_iff, List.forall_mem_map]
    intro p hp
    exact (ih p hp b).trans (boundsOfAll_le_iff.1 le_rfl p hp)
  | minus l r ihl _ => exact ihl b
  | extend p v e ih => exact adding_mono v (ih (b.erase v))
  | values bs => exact hull_le_hull fun c hc => (List.mem_filter.1 hc).1
  | orderBy p keys ih => exact ih b
  | project p vs ih => exact only_mono vs (ih (b.restrict vs))
  | distinct p ih => exact ih b
  | reduced p ih => exact ih b
  | slice p start length _ => exact le_rfl

end Plan

/-! ### Patterns -/

/-- The bounds of the solutions of a pattern. -/
def Bounds.ofPattern (p : Pattern) : Bounds where
  certain := {v | v ∈ p.certainVariables}
  possible := {v | v ∈ p.possibleVariables}

namespace Plan

open Bounds

variable {maps : List TripleMap} {convert : Bool}

theorem bounds_maps_le {ps : List TriplePattern} {ms : List SolutionMap}
    (h : solutionMaps ps maps = .ok ms) :
  (Plan.maps ms).bounds ≤ .ofPattern (.bgp ps)
  := by
  apply hull_le_iff.2
  intro m hm
  have hbinds : ∀ v, m.binds v = true ↔ v ∈ Pattern.tripleVariables ps :=
    fun v => binds_of_mem_solutionMaps h hm
  exact ⟨fun v hv => (hbinds v).2 hv, fun v hv => (hbinds v).1 hv⟩

/-- Converting a filter keeps the bounds. -/
theorem bounds_filterMaps_le (ms : List SolutionMap) (e : Expression) :
  (filterMaps ms e).bounds ≤ (Plan.maps ms).bounds
  := by
  have hselected : ∀ ms' : List SolutionMap, (∀ m' ∈ ms', m' ∈ ms.map (selectAll e.conjunctList))
      → (Plan.maps ms').bounds ≤ (Plan.maps ms).bounds := by
    intro ms' hms'
    apply hull_le_iff.2
    intro m' hm'
    obtain ⟨m, hm, rfl⟩ := List.mem_map.1 (hms' m' hm')
    rw [SolutionMap.binds_selectAll]
    exact admits_hull hm
  rw [filterMaps_eq, filtered]
  split
  · exact hselected _ fun m' hm' => (List.mem_filter.1 hm').1
  · exact hselected _ fun m' hm' => (List.mem_filter.1 hm').1

theorem exists_of_mem_ofPatterns {ps : List Pattern} {plans : List Plan}
    (h : ofPatterns maps convert ps = .ok plans) {plan : Plan} (hplan : plan ∈ plans) :
  ∃ p ∈ ps, ofPattern maps convert p = .ok plan
  := by
  induction ps generalizing plans with
  | nil =>
    cases h
    cases hplan
  | cons p ps ih =>
    obtain ⟨first, hfirst, h⟩ := bind_eq_ok.1 h
    obtain ⟨rest, hrest, h⟩ := bind_eq_ok.1 h
    cases h
    obtain rfl | hplan := List.mem_cons.1 hplan
    · exact ⟨p, List.mem_cons_self, hfirst⟩
    · obtain ⟨q, hq, hplan⟩ := ih hrest hplan
      exact ⟨q, List.mem_cons_of_mem p hq, hplan⟩

/-- The plan of a pattern keeps the bounds of the pattern. -/
theorem bounds_ofPattern_le {p : Pattern} {plan : Plan}
    (h : Plan.ofPattern maps convert p = .ok plan) :
  plan.bounds ≤ .ofPattern p
  := by
  induction p generalizing plan with
  | bgp ps =>
    obtain ⟨ms, hms, ⟨⟩⟩ := bind_eq_ok.1 h
    exact bounds_maps_le hms
  | join l r ihl ihr =>
    obtain ⟨left, hleft, h⟩ := bind_eq_ok.1 h
    obtain ⟨right, hright, ⟨⟩⟩ := bind_eq_ok.1 h
    apply (both_mono (ihl hleft) (ihr hright)).trans
    constructor <;> intro v hv
    · exact List.mem_append.1 (mem_canonical.1 hv)
    · exact mem_canonical.2 (List.mem_append.2 hv)
  | leftJoin l r e ihl ihr =>
    obtain ⟨left, hleft, h⟩ := bind_eq_ok.1 h
    obtain ⟨right, hright, ⟨⟩⟩ := bind_eq_ok.1 h
    apply (optional_mono (ihl hleft) (ihr hright)).trans
    constructor <;> intro v hv
    · exact hv
    · exact mem_canonical.2 (List.mem_append.2 hv)
  | filter e p ih =>
    by_cases hbgp : ∃ ps, p = .bgp ps
    · obtain ⟨ps, rfl⟩ := hbgp
      obtain ⟨ms, hms, ⟨⟩⟩ := bind_eq_ok.1 h
      have hle := bounds_maps_le hms
      split
      · exact (bounds_filterMaps_le ms e).trans hle
      · exact hle
    · push Not at hbgp
      rw [ofPattern_filter hbgp] at h
      obtain ⟨inner, hinner, ⟨⟩⟩ := bind_eq_ok.1 h
      have hle := ih hinner
      exact hle
  | union ps ih =>
    obtain ⟨plans, hplans, ⟨⟩⟩ := bind_eq_ok.1 h
    apply boundsOfAll_le_iff.2
    intro plan hplan
    obtain ⟨p, hp, hplan⟩ := exists_of_mem_ofPatterns hplans hplan
    apply (ih p hp hplan).trans
    constructor <;> intro v hv
    · exact Pattern.mem_certain_of_common hp hv
    · apply mem_canonical.2
      rw [Pattern.allVariables_eq_flatMap]
      exact List.mem_flatMap_of_mem hp hv
  | minus l r ihl ihr =>
    obtain ⟨left, hleft, h⟩ := bind_eq_ok.1 h
    obtain ⟨right, hright, ⟨⟩⟩ := bind_eq_ok.1 h
    have hle := ihl hleft
    exact hle
  | extend p w e ih =>
    obtain ⟨inner, hinner, ⟨⟩⟩ := bind_eq_ok.1 h
    apply (adding_mono w (ih hinner)).trans
    constructor <;> intro v hv
    · exact hv
    · exact mem_canonical.2 (List.mem_cons.2 hv)
  | values vs rows =>
    cases h
    apply hull_le_iff.2
    rw [List.forall_mem_map]
    intro row hrow
    constructor <;> intro v hv
    · exact Pattern.binds_of_fullColumns hrow hv
    · obtain ⟨t, ht⟩ := Pattern.binds_rowBinding.1 hv
      exact mem_canonical.2 (List.of_mem_zip ht).1
  | project p vs ih =>
    obtain ⟨inner, hinner, ⟨⟩⟩ := bind_eq_ok.1 h
    apply (only_mono vs (ih hinner)).trans
    constructor <;> intro v hv
    · obtain ⟨hvs, hv⟩ := List.mem_filter.1 (mem_canonical.1 hv)
      exact ⟨hvs, List.contains_iff_mem.1 hv⟩
    · exact mem_canonical.2 hv.1
  | orderBy p keys ih =>
    obtain ⟨inner, hinner, ⟨⟩⟩ := bind_eq_ok.1 h
    have hle := ih hinner
    exact hle
  | distinct p ih =>
    obtain ⟨inner, hinner, ⟨⟩⟩ := bind_eq_ok.1 h
    have hle := ih hinner
    exact hle
  | reduced p ih =>
    obtain ⟨inner, hinner, ⟨⟩⟩ := bind_eq_ok.1 h
    have hle := ih hinner
    exact hle
  | slice p start length ih =>
    obtain ⟨inner, hinner, ⟨⟩⟩ := bind_eq_ok.1 h
    have hle := ih hinner
    exact hle

end Plan

end RelGraph.Engine
