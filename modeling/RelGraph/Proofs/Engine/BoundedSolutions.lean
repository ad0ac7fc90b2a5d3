import RelGraph.Proofs.Engine.Machine
import RelGraph.Proofs.Engine.Steps
import RelGraph.Proofs.Engine.VariableBounds

/-!
# Variables of solutions

The states of an evaluation have bounds on the variables of the solutions that are still to come.
What a step gives is within the bounds of its state, and the bounds of the next state are as tight
or tighter.  So all solutions are within the bounds of the pattern, whatever the database answers
and whenever it fails.
-/

namespace RelGraph.Engine

open Rdf Sql Sparql Mapping

/-! ### Reading -/

/-- What is given is within the bounds, and so is what comes after it. -/
def Bounds.Covers (β : Bounds) (e : Event Binding) (γ : Bounds) : Prop :=
  (∀ b, e = .item (.ok b) → β.Admits b.binds) ∧ γ ≤ β

/-- What is no solution is within any bounds. -/
theorem Bounds.Covers.quiet {β γ : Bounds} (h : γ ≤ β) :
  β.Covers .quiet γ
  := ⟨by rintro _ ⟨⟩, h⟩

theorem Bounds.Covers.finished {β γ : Bounds} (h : γ ≤ β) :
  β.Covers .finished γ
  := ⟨by rintro _ ⟨⟩, h⟩

theorem Bounds.Covers.error {β γ : Bounds} (h : γ ≤ β) {e : EvalError} :
  β.Covers (.item (.error e)) γ
  := ⟨by rintro _ ⟨⟩, h⟩

open Bounds

variable {σ κ : Type} {B : Backend σ κ} {n : Nat}

namespace Reader

/-- The bounds of the bindings that are still to come. -/
def bounds (r : Reader SolutionMap Binding κ) : Bounds :=
  hull SolutionMap.binds r.group.members ⊔ hull Binding.binds r.buffer

theorem hull_items_le (g : Group SolutionMap) (row : Row) :
  hull Binding.binds (g.items row) ≤ hull SolutionMap.binds g.members
  := by
  rw [hull_le_iff]
  intro b hb
  obtain ⟨m, hm, hb⟩ := List.mem_filterMap.1 hb
  rw [SolutionMap.binds_of_make? hb]
  exact admits_hull hm

/-- What is fetched is within the bounds of the group. -/
theorem hull_fetch_le (g : Group SolutionMap) {c : κ} {items : List Binding} {s : σ}
    (h : hull Binding.binds items ≤ hull SolutionMap.binds g.members) :
  hull Binding.binds (fetch B g n c items s).1.items ≤ hull SolutionMap.binds g.members
  := by
  induction n generalizing c items s with
  | zero => exact h
  | succ n ih =>
    rw [fetch]
    split
    · apply ih
      rw [hull_le_iff, List.forall_mem_append]
      exact ⟨hull_le_iff.1 h, hull_le_iff.1 (hull_items_le g _)⟩
    · exact h
    · exact h

theorem covers_send (g : Group SolutionMap) (s : σ) :
  (bounds (⟨g, .waiting, []⟩ : Reader SolutionMap Binding κ)).Covers
    (send B ⟨g, .waiting, []⟩ s).1 (send B ⟨g, .waiting, []⟩ s).2.1.bounds
  := by
  rw [send]
  split
  · exact .quiet le_rfl
  · split
    · exact .quiet (sup_le le_sup_left ((hull_items_le g _).trans le_sup_left))
    · split
      · exact .quiet le_rfl
      · exact .error le_rfl

theorem covers_step (r : Reader SolutionMap Binding κ) (s : σ) :
  r.bounds.Covers (r.step B n s).1 (r.step B n s).2.1.bounds
  := by
  obtain ⟨g, progress, buffer⟩ := r
  have hempty : (⟨g, .done, []⟩ : Reader SolutionMap Binding κ).bounds
      ≤ bounds ⟨g, progress, buffer⟩ := sup_le le_sup_left hull_nil_le
  rw [step]
  split
  · constructor
    · intro b hb
      dsimp only at hb
      split at hb <;> cases hb
    · cases progress <;> exact hempty
  · cases buffer with
    | cons b bs =>
      have hb : (hull Binding.binds (b :: bs)).Admits b.binds := admits_hull List.mem_cons_self
      have hbs : hull Binding.binds bs ≤ hull Binding.binds (b :: bs) :=
        hull_le_hull fun c hc => List.mem_cons_of_mem b hc
      constructor
      · rintro c ⟨⟩
        exact hb.mono le_sup_right
      · exact sup_le_sup le_rfl hbs
    | nil =>
      cases progress with
      | waiting => exact covers_send g s
      | done => exact .finished le_rfl
      | reading c =>
        have hfetch : hull Binding.binds (fetch B g n c [] s).1.items
            ≤ hull SolutionMap.binds g.members := hull_fetch_le g hull_nil_le
        dsimp only
        split
        · exact .quiet (sup_le le_sup_left (hfetch.trans le_sup_left))
        · exact .error (sup_le le_sup_left (hfetch.trans le_sup_left))

end Reader

namespace Scan

/-- The bounds of the bindings that are still to come. -/
def bounds (t : Scan SolutionMap Binding κ) : Bounds :=
  t.current.elim ⊥ Reader.bounds ⊔ hull SolutionMap.binds (t.rest.flatMap Group.members)

theorem covers_step (t : Scan SolutionMap Binding κ) (s : σ) :
  t.bounds.Covers (t.step B n s).1 (t.step B n s).2.1.bounds
  := by
  obtain ⟨_ | r, gs⟩ := t
  · cases gs with
    | nil => exact .finished le_rfl
    | cons g gs =>
      use by rintro _ ⟨⟩
      have hg : hull SolutionMap.binds g.members
          ≤ hull SolutionMap.binds ((g :: gs).flatMap Group.members) :=
        hull_le_hull fun m hm => List.mem_flatMap_of_mem List.mem_cons_self hm
      have hgs : hull SolutionMap.binds (gs.flatMap Group.members)
          ≤ hull SolutionMap.binds ((g :: gs).flatMap Group.members) :=
        hull_le_hull fun m hm => List.mem_append_right g.members hm
      exact (sup_le (sup_le hg hull_nil_le) hgs).trans le_sup_right
  · have hr := Reader.covers_step (B := B) (n := n) r s
    rw [step]
    dsimp only
    split
    · exact .quiet (sup_le bot_le le_sup_right)
    · rename_i e r' s' _ heq
      rw [heq] at hr
      constructor
      · intro b hb
        exact (hr.1 b hb).mono le_sup_left
      · exact sup_le_sup hr.2 le_rfl

theorem bounds_ofMaps_le (ms : List SolutionMap) :
  (ofMaps ms : Scan SolutionMap Binding κ).bounds ≤ hull SolutionMap.binds ms
  := by
  apply sup_le bot_le
  exact hull_le_hull fun m hm => (Group.perm_members_ofList ms).mem_iff.1 hm

end Scan

/-! ### Steps -/

namespace Solutions

/-- The bounds of the solutions that are still to come. -/
def bounds : Solutions κ → Bounds
  | .ready bs => hull Binding.binds bs
  | .scan t => t.bounds
  | .join l r => (bounds l).both (bounds r)
  | .joinCollect l r b found =>
    (bounds l ⊔ hull Binding.binds [b]).both (bounds r ⊔ hull Binding.binds found)
  | .joinFound front l found =>
    hull Binding.binds front ⊔ (bounds l).both (hull Binding.binds found)
  | .leftJoin l r _ => (bounds l).optional r.bounds
  | .leftJoinAt l r _ b inner _ =>
    (bounds l ⊔ hull Binding.binds [b]).optional (r.bounds ⊔ bounds inner)
  | .filter p _ => bounds p
  | .union ps => Plan.boundsOfAll ps
  | .unionAt p ps => bounds p ⊔ Plan.boundsOfAll ps
  | .minus l _ => bounds l
  | .minusCollect l _ b _ => bounds l ⊔ hull Binding.binds [b]
  | .minusFound l _ => bounds l
  | .extend p v _ => adding v (bounds p)
  | .sort p _ found => bounds p ⊔ hull Binding.binds found
  | .project p vs => only vs (bounds p)
  | .distinct p _ => bounds p
  | .reduced p current => bounds p ⊔ hull Binding.binds current.toList
  | .skip _ p => bounds p
  | .take _ p => bounds p

theorem bounds_ofPlan_le (p : Plan) : (ofPlan p : Solutions κ).bounds ≤ p.bounds := by
  induction p with
  | maps ms => exact Scan.bounds_ofMaps_le ms
  | join l r ihl ihr => exact both_mono ihl ihr
  | leftJoin l r e ihl _ => exact optional_mono ihl le_rfl
  | filter p e ih => exact ih
  | union ps _ => exact le_rfl
  | minus l r ihl _ => exact ihl
  | extend p v e ih => exact adding_mono v ih
  | values bs => exact le_rfl
  | orderBy p keys ih => exact sup_le ih hull_nil_le
  | project p vs ih => exact only_mono vs ih
  | distinct p ih => exact ih
  | reduced p ih => exact sup_le ih hull_nil_le
  | slice p start length ih =>
    have hskip : (if 0 < start then .skip start (ofPlan p) else ofPlan p : Solutions κ).bounds
        ≤ p.bounds := by
      split
      · exact ih
      · exact ih
    cases length with
    | none => exact hskip
    | some k => exact hskip

/-- An event that is given under a condition is the one that there is. -/
theorem eq_of_ite_item {c : Prop} [Decidable c] {b d : Binding}
    (h : (if c then Event.item (.ok b) else .quiet) = Event.item (.ok d)) :
  Event.item (.ok b) = Event.item (Except.ok d)
  := by
  split at h
  · exact h
  · cases h

section

variable {p p' : Solutions κ} {e : Event Binding} (h : p.bounds.Covers e p'.bounds)

include h

theorem covers_react_joinCollect (l : Solutions κ) (b : Binding) (found : List Binding) :
  (joinCollect l p b found).bounds.Covers ((joinCollect l p b found).react e p').1
    ((joinCollect l p b found).react e p').2.1.bounds
  := by
  obtain ⟨hitem, hle⟩ := h
  obtain (f | c) | _ | _ := e
  · exact .error (sup_le hull_nil_le (both_mono le_sup_left hull_nil_le))
  · have hfound : hull Binding.binds (c :: found) ≤ p.bounds ⊔ hull Binding.binds found :=
      hull_cons_le ((hitem c rfl).mono le_sup_left) le_sup_right
    exact .quiet (both_mono le_rfl (sup_le (hle.trans le_sup_left) hfound))
  · exact .quiet (both_mono le_rfl (sup_le_sup hle le_rfl))
  · have hb := (admits_hull (f := Binding.binds) (List.mem_singleton_self b)).mono
      (le_sup_right (a := l.bounds))
    have hfound : hull Binding.binds found.reverse ≤ p.bounds ⊔ hull Binding.binds found :=
      (hull_le_hull (by simp)).trans le_sup_right
    exact .quiet (sup_le (hull_merge_le hb hfound) (both_mono le_sup_left hfound))

/-- The solutions of the right operand extend the left solution, or it is given alone. -/
theorem covers_react_leftJoinAt (l : Solutions κ) (r : Plan) (c : Expression) (b : Binding)
    (matched : Bool) :
  (leftJoinAt l r c b p matched).bounds.Covers ((leftJoinAt l r c b p matched).react e p').1
    ((leftJoinAt l r c b p matched).react e p').2.1.bounds
  := by
  obtain ⟨hitem, hle⟩ := h
  have hb := (admits_hull (f := Binding.binds) (List.mem_singleton_self b)).mono
    (le_sup_right (a := l.bounds))
  have hnext : ∀ m : Bool, (leftJoinAt l r c b p' m).bounds
      ≤ (leftJoinAt l r c b p matched).bounds :=
    fun m => optional_mono le_rfl (sup_le_sup le_rfl hle)
  obtain (f | d) | _ | _ := e
  · exact .error (hnext matched)
  · rw [react]
    split
    · rename_i merged hmerged
      obtain ⟨hmerged, -⟩ := Option.filter_eq_some_iff.1 hmerged
      constructor
      · rintro _ ⟨⟩
        have hd := (hitem d rfl).mono (le_sup_right (a := r.bounds))
        exact (admits_both hb hd hmerged).mono both_le_optional
      · exact hnext true
    · exact .quiet (hnext matched)
  · exact .quiet (hnext matched)
  · rw [react]
    split
    · exact .quiet (optional_mono le_sup_left le_sup_left)
    · constructor
      · rintro _ ⟨⟩
        exact hb.mono le_optional
      · exact hnext true

/-- A solution that was held back is within the bounds. -/
theorem covers_react_reduced (current : Option Binding) :
  (reduced p current).bounds.Covers ((reduced p current).react e p').1
    ((reduced p current).react e p').2.1.bounds
  := by
  obtain ⟨hitem, hle⟩ := h
  have hnext := sup_le_sup hle (le_refl (hull Binding.binds current.toList))
  have hcurrent : ∀ c, current = some c
      → (p.bounds ⊔ hull Binding.binds current.toList).Admits c.binds := by
    rintro c rfl
    exact (admits_hull (List.mem_singleton_self c)).mono le_sup_right
  obtain (f | b) | _ | _ := e
  · cases current <;> exact .error hnext
  · have hb : (reduced p' (some b)).bounds ≤ p.bounds ⊔ hull Binding.binds current.toList :=
      (sup_le hle (hull_cons_le (hitem b rfl) hull_nil_le)).trans le_sup_left
    cases current with
    | none => exact .quiet hb
    | some c =>
      constructor
      · intro d hd
        simp only [react] at hd
        split at hd
        · cases hd
        · cases hd
          exact hcurrent c rfl
      · exact hb
  · cases current <;> exact .quiet hnext
  · cases current with
    | none => exact .finished hnext
    | some c =>
      constructor
      · rintro _ ⟨⟩
        exact hcurrent c rfl
      · exact sup_le (hle.trans le_sup_left) hull_nil_le

end

/-- A state reacts to its active operand within its bounds. -/
theorem covers_react {t p p' : Solutions κ} {e : Event Binding} (hactive : t.active? = some p)
    (h : p.bounds.Covers e p'.bounds) :
  t.bounds.Covers (t.react e p').1 (t.react e p').2.1.bounds
  := by
  have ⟨hitem, hle⟩ := h
  cases t with
  | ready bs => cases hactive
  | scan t => cases hactive
  | union ps => cases hactive
  | join l r =>
    cases hactive
    obtain (f | b) | _ | _ := e
    · exact .error (both_mono hle le_rfl)
    · exact .quiet (both_mono (sup_le hle (hull_cons_le (hitem b rfl) hull_nil_le)) (sup_le le_rfl hull_nil_le))
    · exact .quiet (both_mono hle le_rfl)
    · exact .finished hull_nil_le
  | joinCollect l r b found =>
    cases hactive
    exact covers_react_joinCollect h l b found
  | joinFound front l found =>
    cases front with
    | cons b front => cases hactive
    | nil =>
      cases hactive
      obtain (f | b) | _ | _ := e
      · exact .error (sup_le_sup le_rfl (both_mono hle le_rfl))
      · exact .quiet ((sup_le (hull_merge_le (hitem b rfl) le_rfl) (both_mono hle le_rfl)).trans le_sup_right)
      · exact .quiet (sup_le_sup le_rfl (both_mono hle le_rfl))
      · exact .finished hull_nil_le
  | leftJoin l r c =>
    cases hactive
    obtain (f | b) | _ | _ := e
    · exact .error (optional_mono hle le_rfl)
    · have hnarrow : (ofPlan (r.narrow b) : Solutions κ).bounds ≤ r.bounds :=
        (bounds_ofPlan_le _).trans (r.bounds_narrow_le b)
      exact .quiet (optional_mono (sup_le hle (hull_cons_le (hitem b rfl) hull_nil_le))
        (sup_le le_rfl hnarrow))
    · exact .quiet (optional_mono hle le_rfl)
    · exact .finished hull_nil_le
  | leftJoinAt l r c b inner matched =>
    cases hactive
    exact covers_react_leftJoinAt h l r c b matched
  | filter p c =>
    cases hactive
    obtain (f | b) | _ | _ := e
    · exact .error hle
    · exact ⟨fun d hd => hitem d (eq_of_ite_item hd), hle⟩
    · exact .quiet hle
    · exact .finished hle
  | unionAt p ps =>
    cases hactive
    have hnext := sup_le_sup hle (le_refl (Plan.boundsOfAll ps))
    obtain (f | b) | _ | _ := e
    · exact .error hnext
    · exact ⟨fun d hd => (hitem d hd).mono le_sup_left, hnext⟩
    · exact .quiet hnext
    · exact .quiet le_sup_right
  | minus l r =>
    cases hactive
    obtain (f | b) | _ | _ := e
    · exact .error hle
    · exact .quiet (sup_le hle (hull_cons_le (hitem b rfl) hull_nil_le))
    · exact .quiet hle
    · exact .finished hle
  | minusCollect l r b found =>
    cases hactive
    obtain (f | c) | _ | _ := e
    · exact .error le_sup_left
    · exact .quiet le_rfl
    · exact .quiet le_rfl
    · constructor
      · intro d hd
        cases eq_of_ite_item hd
        exact (admits_hull (List.mem_singleton_self b)).mono le_sup_right
      · exact le_sup_left
  | minusFound l found =>
    cases hactive
    obtain (f | b) | _ | _ := e
    · exact .error hle
    · exact ⟨fun d hd => hitem d (eq_of_ite_item hd), hle⟩
    · exact .quiet hle
    · exact .finished hle
  | extend p v c =>
    cases hactive
    have hnext := adding_mono v hle
    obtain (f | b) | _ | _ := e
    · exact .error hnext
    · constructor
      · rintro _ ⟨⟩
        exact admits_adding v c (hitem b rfl)
      · exact hnext
    · exact .quiet hnext
    · exact .finished hnext
  | sort p keys found =>
    cases hactive
    obtain (f | b) | _ | _ := e
    · exact .error hull_nil_le
    · exact .quiet (sup_le (hle.trans le_sup_left)
        (hull_cons_le ((hitem b rfl).mono le_sup_left) le_sup_right))
    · exact .quiet (sup_le_sup hle le_rfl)
    · have hsorted : ∀ b ∈ sortBindings keys found.reverse, b ∈ found := by
        intro b hb
        exact List.mem_reverse.1 (mem_sortBindings.1 hb)
      exact .quiet ((hull_le_hull hsorted).trans le_sup_right)
  | project p vs =>
    cases hactive
    have hnext := only_mono vs hle
    obtain (f | b) | _ | _ := e
    · exact .error hnext
    · constructor
      · rintro _ ⟨⟩
        exact admits_only vs (hitem b rfl)
      · exact hnext
    · exact .quiet hnext
    · exact .finished hnext
  | distinct p seen =>
    cases hactive
    obtain (f | b) | _ | _ := e
    · exact .error hle
    · rw [react]
      split
      · exact .quiet hle
      · exact ⟨hitem, hle⟩
    · exact .quiet hle
    · exact .finished hle
  | reduced p current =>
    cases hactive
    exact covers_react_reduced h current
  | skip k p =>
    cases hactive
    obtain (f | b) | _ | _ := e
    · cases k with
      | zero => exact .error hle
      | succ k => exact .quiet hle
    · cases k with
      | zero => exact ⟨hitem, hle⟩
      | succ k => exact .quiet hle
    · cases k <;> exact .quiet hle
    · cases k <;> exact .finished hle
  | take k p =>
    cases k with
    | zero => cases hactive
    | succ k =>
      cases hactive
      obtain (f | b) | _ | _ := e
      · exact .error hle
      · exact ⟨hitem, hle⟩
      · exact .quiet hle
      · exact .finished hle

/-- What a step gives is within the bounds of the state, and so is what comes after it. -/
theorem covers_step (t : Solutions κ) (s : σ) :
  t.bounds.Covers (step B n t s).1 (step B n t s).2.1.bounds
  := by
  induction t using step_induction generalizing s with
  | active t p hactive ih =>
    rw [step_of_active? hactive]
    exact covers_react hactive (ih s)
  | scan t => exact t.covers_step s
  | ready_nil => exact .finished le_rfl
  | ready_cons b bs =>
    constructor
    · rintro _ ⟨⟩
      exact admits_hull List.mem_cons_self
    · exact hull_le_hull fun c hc => List.mem_cons_of_mem b hc
  | joinFound b front l found =>
    constructor
    · rintro _ ⟨⟩
      exact (admits_hull List.mem_cons_self).mono le_sup_left
    · exact sup_le_sup (hull_le_hull fun c hc => List.mem_cons_of_mem b hc) le_rfl
  | union_nil => exact .finished le_rfl
  | union_cons p ps => exact .quiet (sup_le_sup (bounds_ofPlan_le p) le_rfl)
  | take_zero p => exact .finished le_rfl

/-- All the solutions of a run are within the bounds of its first state. -/
theorem admits_of_runs {M : σ → σ → Prop} {t t' : Solutions κ} {s s' : σ}
    {es : List (Event Binding)} (h : (machine B n).Runs M t s es t' s') :
  (∀ b, Event.item (Except.ok b) ∈ es → t.bounds.Admits b.binds) ∧ t'.bounds ≤ t.bounds
  := by
  induction h with
  | start => exact ⟨by simp, le_rfl⟩
  | meanwhile _ _ ih => exact ih
  | @step es e t' t'' s' s'' _ hstep ih =>
    obtain ⟨hes, hle⟩ := ih
    obtain ⟨hitem, hnext⟩ : t'.bounds.Covers e t''.bounds := by
      have hcovers := covers_step (B := B) (n := n) t' s'
      rwa [show step B n t' s' = (e, t'', s'') from hstep] at hcovers
    refine ⟨?_, hnext.trans hle⟩
    intro b hb
    obtain hb | hb := List.mem_append.1 hb
    · exact hes b hb
    · exact (hitem b (List.mem_singleton.1 hb).symm).mono hle

/-! ### Variables of solutions -/

/-- A solution of the plan of a pattern binds the certain variables of the pattern, and no variables
but the possible ones.  This does not depend on the database, on errors that come before the
solution, on whether filters are converted, or on what happens to the store between two steps. -/
theorem binds_between (B : Backend σ κ) (n : Nat) (M : σ → σ → Prop) {maps : List TripleMap}
    {convert : Bool} {p : Pattern} {plan : Plan} (hplan : Plan.ofPattern maps convert p = .ok plan)
    {t : Solutions κ} {s s' : σ} {es : List (Event Binding)}
    (hrun : (machine B n).Runs M (ofPlan plan) s es t s') {b : Binding}
    (hb : Event.item (Except.ok b) ∈ es) :
  (∀ v ∈ p.certainVariables, b.binds v = true) ∧ ∀ v, b.binds v = true → v ∈ p.possibleVariables
  := by
  have hle : (ofPlan plan : Solutions κ).bounds ≤ .ofPattern p :=
    (bounds_ofPlan_le plan).trans (Plan.bounds_ofPattern_le hplan)
  exact ((admits_of_runs hrun).1 b hb).mono hle

/-- The second person, with the name if there is one. -/
def optionalName : Pattern :=
  .leftJoin (.values [⟨"x"⟩, ⟨"y"⟩] [[some (.iri ⟨"ex:2"⟩), none]]) (.bgp Plan.namePatterns)
    (.literal (.ofBool true))

/-- The plan of the second person with the name. -/
def optionalNamePlan : Plan :=
  .leftJoin (.values [Plan.rowBinding [⟨"x"⟩, ⟨"y"⟩] [some (.iri ⟨"ex:2"⟩), none]])
    (.maps Plan.nameSolutions) (.literal (.ofBool true))

theorem ofPattern_optionalName :
  Plan.ofPattern [nameMap, knowsMap] true optionalName = .ok optionalNamePlan
  := by
  rw [optionalName, Plan.ofPattern, Plan.ofPattern, Plan.ofPattern, Plan.solutionMaps_namePatterns]
  rfl

theorem pull_optionalNamePlan :
  ∃ t s, (machine (memoryBackend friendsDatabase .none) 2).pull 20 (ofPlan optionalNamePlan) .start
    = (.item (.ok (Plan.namedBinding "ex:2" "Bob")), t, s)
  := by
  have hitems : (Machine.pulledItems ((machine (memoryBackend friendsDatabase .none) 2).pull 20
      (ofPlan optionalNamePlan) .start).1).map Except.toOption
        = [some (Plan.namedBinding "ex:2" "Bob")] := by
    decide
  rcases hpull : (machine (memoryBackend friendsDatabase .none) 2).pull 20 (ofPlan optionalNamePlan)
    .start with ⟨p, t, s⟩
  rw [hpull] at hitems
  obtain (e | b) | _ | _ := p
  · cases hitems
  · cases hitems
    exact ⟨t, s, rfl⟩
  · cases hitems
  · cases hitems

theorem binds_between_optionalName :
  Plan.ofPattern [nameMap, knowsMap] true optionalName = .ok optionalNamePlan
    ∧ ∃ es t s, (machine (memoryBackend friendsDatabase .none) 2).Runs (fun _ _ => False)
        (ofPlan optionalNamePlan) .start es t s
      ∧ Event.item (Except.ok (Plan.namedBinding "ex:2" "Bob")) ∈ es
      ∧ (∀ v ∈ optionalName.certainVariables, (Plan.namedBinding "ex:2" "Bob").binds v = true)
      ∧ ∀ v, (Plan.namedBinding "ex:2" "Bob").binds v = true → v ∈ optionalName.possibleVariables
  := by
  use ofPattern_optionalName
  obtain ⟨t, s, hpull⟩ := pull_optionalNamePlan
  obtain ⟨k, e, he, hrun⟩ := Machine.Runs.start.of_pull hpull (by simp)
  obtain r | _ | _ := e
  · cases he
    have hmem : Event.item (Except.ok (Plan.namedBinding "ex:2" "Bob"))
        ∈ [] ++ List.replicate k Event.quiet
          ++ [Event.item (Except.ok (Plan.namedBinding "ex:2" "Bob"))] := by
      simp
    exact ⟨_, t, s, hrun, hmem, binds_between _ 2 _ ofPattern_optionalName hrun hmem⟩
  · cases he
  · cases he

end Solutions

end RelGraph.Engine
