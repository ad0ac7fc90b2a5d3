import Mathlib.Tactic.Common
import RelGraph.Engine.Results
import RelGraph.Proofs.Engine.Machine

/-!
# Constructed triples

A construction gives the instances of its template, solution by solution and in the order of the
template; an error among the solutions stays at its place.  A triple without blank nodes is given
only where it comes first (`Construction.delivered_instances`).

The blank nodes of the template get new labels on each solution.  An instance is defined for any
labels; that of the construction gives different labels to different names, and to one name on
different solutions.
-/

namespace RelGraph.Engine

open Rdf

/-! ### Instances of templates -/

/-- What a position of a template stands for on a solution, where the blank nodes of the template
have labels for this solution. -/
inductive StandsFor (label : String → BlankNode) (b : Binding) : Position → Term → Prop where
  | constant {t : Term} (h : ∀ name, t ≠ .blank (.named name)) : StandsFor label b (.term t) t
  | blank (name : String) :
    StandsFor label b (.term (.blank (.named name))) (.blank (label name))
  | bound {v : Variable} {t : Term} (h : b.get? v = some t) : StandsFor label b (.variable v) t

/-- The triple is what a triple of a template stands for on a solution.  Its subject is an IRI or
a blank node and its predicate is an IRI, as in every triple. -/
structure InstanceOf (label : String → BlankNode) (b : Binding) (p : TriplePattern) (t : Triple) :
    Prop where
  subject : StandsFor label b p.subject t.subject.toTerm
  predicate : StandsFor label b p.predicate (.iri t.predicate)
  object : StandsFor label b p.object t.object

theorem instantiatePosition_eq_some_iff {number : Nat} {b : Binding} {x : Position} {t : Term} :
  instantiatePosition number b x = some t ↔ StandsFor (BlankNode.fresh number) b x t
  := by
  constructor
  · intro h
    unfold instantiatePosition at h
    split at h
    · cases h
      apply StandsFor.blank
    · rename_i hne
      cases h
      apply StandsFor.constant
      intro name hname
      apply hne name hname
    · apply StandsFor.bound h
  · intro h
    cases h with
    | blank name => rfl
    | bound h => apply h
    | constant hne =>
      unfold instantiatePosition
      split
      · rename_i name heq
        cases heq
        apply absurd rfl (hne name)
      · rename_i heq
        cases heq
        rfl
      · rename_i heq
        cases heq

/-- A triple of a template is instantiated to its instance, if it has one. -/
theorem instantiate_eq_some_iff {number : Nat} {b : Binding} {p : TriplePattern} {t : Triple} :
  instantiate number b p = some t ↔ InstanceOf (BlankNode.fresh number) b p t
  := by
  simp only [instantiate, Option.bind_eq_bind, Option.bind_eq_some_iff,
    Triple.ofTerms?_eq_some_iff, instantiatePosition_eq_some_iff]
  constructor
  · rintro ⟨_, hs, _, hp, _, ho, rfl, rfl, rfl⟩
    use hs, hp
  · rintro ⟨hs, hp, ho⟩
    use t.subject.toTerm, hs, .iri t.predicate, hp, t.object, ho

/-- The instances of a template on solutions, the first of which has the given number. -/
def instances (template : List TriplePattern) :
    Nat → List (Except EvalError Binding) → List (Except EvalError Triple)
  | _, [] => []
  | number, .error e :: rs => .error e :: instances template number rs
  | number, .ok b :: rs =>
    (template.filterMap (instantiate number b)).map .ok ++ instances template (number + 1) rs

/-! ### Triples that are given once -/

/-- The item is given after others: it is an error, or has a blank node, or is not among them. -/
def isNewAfter (before : List (Except EvalError Triple)) : Except EvalError Triple → Bool
  | .error _ => true
  | .ok t => hasBlank t || t ∉ before.filterMap Except.toOption

/-- The items of a list that are given if others came before. -/
def newItems (before is : List (Except EvalError Triple)) : List (Except EvalError Triple) :=
  (is.zipIdx.filter fun i => isNewAfter (before ++ is.take i.2) i.1).map Prod.fst

theorem newItems_cons (before : List (Except EvalError Triple)) (i : Except EvalError Triple)
    (is : List (Except EvalError Triple)) :
  newItems before (i :: is)
    = (if isNewAfter before i then [i] else []) ++ newItems (before ++ [i]) is
  := by
  have hrest : newItems (before ++ [i]) is
      = ((is.zipIdx 1).filter fun j => isNewAfter (before ++ (i :: is).take j.2) j.1).map
        Prod.fst := by
    rw [newItems, List.zipIdx_succ, List.filter_map, List.map_map]
    simp [Function.comp_def]
  rw [hrest, newItems, List.zipIdx_cons, List.filter_cons, List.take_zero, List.append_nil]
  split <;> rfl

theorem newItems_append (before is js : List (Except EvalError Triple)) :
  newItems before (is ++ js) = newItems before is ++ newItems (before ++ is) js
  := by
  induction is generalizing before with
  | nil => simp [newItems]
  | cons i is ih =>
    rw [List.cons_append, newItems_cons, ih, newItems_cons, List.append_assoc, List.append_assoc,
      List.singleton_append]

/-- The list has those triples without blank nodes that are among some items. -/
def Remembers (given : List Triple) (is : List (Except EvalError Triple)) : Prop :=
  ∀ t, hasBlank t = false → (t ∈ given ↔ t ∈ is.filterMap Except.toOption)

theorem remembers_nil :
  Remembers [] []
  := by
  simp [Remembers]

section

variable {given : List Triple} {is : List (Except EvalError Triple)} {t : Triple}

theorem Remembers.error (h : Remembers given is) (e : EvalError) :
  Remembers given (is ++ [.error e])
  := by
  intro u hu
  simp [h u hu, Except.toOption]

/-- A triple that is not added has blank nodes or is in the list. -/
theorem Remembers.skip (h : Remembers given is) (ht : hasBlank t = true ∨ t ∈ given) :
  Remembers given (is ++ [.ok t])
  := by
  intro u hu
  have hne : u = t → u ∈ given := by
    rintro rfl
    apply ht.resolve_left
    simp [hu]
  simp only [List.filterMap_append, List.mem_append, ← h u hu, List.filterMap_cons,
    List.filterMap_nil, Except.toOption, List.mem_singleton]
  constructor
  · apply Or.inl
  · rintro (hmem | heq)
    · apply hmem
    · apply hne heq

theorem Remembers.add (h : Remembers given is) :
  Remembers (t :: given) (is ++ [.ok t])
  := by
  intro u hu
  simp [h u hu, Except.toOption, or_comm]

end

/-- On a solution the instances of the template are given that are new, and they are remembered. -/
theorem map_construct (number : Nat) (b : Binding) (ps : List TriplePattern) {given : List Triple}
    {before : List (Except EvalError Triple)} (h : Remembers given before) :
  (construct number b given ps).1.map .ok
      = newItems before ((ps.filterMap (instantiate number b)).map .ok)
    ∧ Remembers (construct number b given ps).2
      (before ++ (ps.filterMap (instantiate number b)).map .ok)
  := by
  induction ps generalizing given before with
  | nil => simpa [construct, newItems] using h
  | cons p ps ih =>
    rw [construct]
    split
    · rename_i hp
      rw [List.filterMap_cons_none hp]
      apply ih h
    · rename_i t hp
      rw [List.filterMap_cons_some hp, List.map_cons, List.append_cons, newItems_cons]
      split
      · rename_i hblank
        have hnew : isNewAfter before (.ok t) = true := by simp [isNewAfter, hblank]
        obtain ⟨hts, hgiven⟩ := ih (h.skip (Or.inl hblank))
        rw [if_pos hnew, ← hts]
        exact ⟨rfl, hgiven⟩
      · rename_i hblank
        rw [Bool.not_eq_true] at hblank
        split
        · rename_i hmem
          have hnew : isNewAfter before (.ok t) = false := by
            simpa [isNewAfter, hblank] using (h t hblank).1 hmem
          obtain ⟨hts, hgiven⟩ := ih (h.skip (Or.inr hmem))
          rw [hnew, ← hts]
          exact ⟨rfl, hgiven⟩
        · rename_i hmem
          have hnew : isNewAfter before (.ok t) = true := by
            simpa [isNewAfter, hblank] using mt (h t hblank).2 hmem
          obtain ⟨hts, hgiven⟩ := ih (h.add (t := t))
          rw [if_pos hnew, ← hts]
          exact ⟨rfl, hgiven⟩

/-! ### Reading a construction -/

namespace Construction

variable {σ κ : Type} {B : Backend σ κ} {n : Nat}

/-- Larger bounds do not change what is found within smaller ones. -/
theorem pull_of_le {steps steps' fuel fuel' : Nat} (hsteps : steps ≤ steps') (hfuel : fuel ≤ fuel')
    {c c' : Construction κ} {s s' : σ} {p : Pulled Triple} (hp : p ≠ .pending)
    (h : c.pull B n steps fuel s = (p, c', s')) :
  c.pull B n steps' fuel' s = (p, c', s')
  := by
  induction fuel generalizing c s fuel' with
  | zero =>
    cases h
    contradiction
  | succ fuel ih =>
    obtain _ | fuel' := fuel'
    · cases hfuel
    · obtain ⟨solutions, template, _ | ⟨t, buffer⟩, given, number⟩ := c
      · have hsteady := Machine.steady_pullGuarded (Solutions.machine B n) B.cancelled
        simp only [pull] at h ⊢
        rcases hpull : (Solutions.machine B n).pullGuarded B.cancelled steps solutions s
          with ⟨⟨e | b⟩ | _ | _, t, s₁⟩
        · rw [hpull] at h
          rw [hsteady _ _ _ _ _ _ _ hsteps (by simp) hpull]
          apply h
        · rw [hpull] at h
          rw [hsteady _ _ _ _ _ _ _ hsteps (by simp) hpull]
          apply ih (Nat.le_of_succ_le_succ hfuel) h
        · rw [hpull] at h
          rw [hsteady _ _ _ _ _ _ _ hsteps (by simp) hpull]
          apply h
        · rw [hpull] at h
          cases h
          contradiction
      · apply h

/-- Pulls the next triple, with one bound on the solutions and on the steps to each of them. -/
def pullWithin (B : Backend σ κ) (n fuel : Nat) :
    Construction κ → σ → Pulled Triple × Construction κ × σ :=
  Construction.pull B n fuel fuel

attribute [local simp] pull pullWithin

theorem steady_pullWithin :
  Steady (Construction.pullWithin B n)
  := by
  intro fuel fuel' c s p c' s' hle hp h
  apply pull_of_le hle hle hp h

section

variable {solutions solutions' : Option (Solutions κ)} {template : List TriplePattern}
  {given : List Triple} {number fuel : Nat} {s s' : σ}

/-- The end of the solutions is the end of the triples. -/
theorem pullWithin_of_ended
    (h : (Solutions.machine B n).pullGuarded B.cancelled fuel solutions s
      = (.ended, solutions', s')) :
  pullWithin B n (fuel + 1) ⟨solutions, template, [], given, number⟩ s
    = (.ended, ⟨solutions', template, [], given, number⟩, s')
  := by
  have h' := Machine.steady_pullGuarded _ _ _ (fuel + 1) _ _ _ _ _ (by omega) (by simp) h
  simp [h']

/-- An error among the solutions is passed on. -/
theorem pullWithin_of_error {e : EvalError}
    (h : (Solutions.machine B n).pullGuarded B.cancelled fuel solutions s
      = (.item (.error e), solutions', s')) :
  pullWithin B n (fuel + 1) ⟨solutions, template, [], given, number⟩ s
    = (.item (.error e), ⟨solutions', template, [], given, number⟩, s')
  := by
  have h' := Machine.steady_pullGuarded _ _ _ (fuel + 1) _ _ _ _ _ (by omega) (by simp) h
  simp [h']

/-- After a solution the pull goes on with its triples. -/
theorem pullWithin_of_ok {b : Binding} {steps : Nat} {p : Pulled Triple} {c : Construction κ}
    {s'' : σ} (hp : p ≠ .pending)
    (h : (Solutions.machine B n).pullGuarded B.cancelled steps solutions s
      = (.item (.ok b), solutions', s'))
    (hrest : pullWithin B n fuel ⟨solutions', template, (construct number b given template).1,
      (construct number b given template).2, number + 1⟩ s' = (p, c, s'')) :
  pullWithin B n (steps + fuel + 1) ⟨solutions, template, [], given, number⟩ s = (p, c, s'')
  := by
  have h' := Machine.steady_pullGuarded _ _ _ (steps + fuel + 1) _ _ _ _ _ (by omega) (by simp) h
  simp [h']
  apply pull_of_le (by omega) (by omega) hp hrest

/-- The triples that are still to come are given first. -/
theorem delivered_buffer {is : List (Except EvalError Triple)} (buffer : List Triple)
    (h : Delivered (pullWithin B n) ⟨solutions, template, [], given, number⟩ s is) :
  Delivered (pullWithin B n) ⟨solutions, template, buffer, given, number⟩ s (buffer.map .ok ++ is)
  := by
  induction buffer with
  | nil => apply h
  | cons t buffer ih => apply Delivered.item 1 rfl ih

/-- The triples of a solution are given before the others. -/
theorem delivered_solution {b : Binding} {steps : Nat} {is : List (Except EvalError Triple)}
    (hpull : (Solutions.machine B n).pullGuarded B.cancelled steps solutions s
      = (.item (.ok b), solutions', s'))
    (h : Delivered (pullWithin B n)
      ⟨solutions', template, [], (construct number b given template).2, number + 1⟩ s' is) :
  Delivered (pullWithin B n) ⟨solutions, template, [], given, number⟩ s
    ((construct number b given template).1.map .ok ++ is)
  := by
  have hbuffer := delivered_buffer (construct number b given template).1 h
  generalize (construct number b given template).1.map .ok ++ is = js at hbuffer ⊢
  cases hbuffer with
  | ended fuel hended =>
    apply Delivered.ended (steps + fuel + 1)
    apply pullWithin_of_ok (by simp) hpull hended
  | item fuel hitem hrest =>
    apply Delivered.item (steps + fuel + 1) _ hrest
    apply pullWithin_of_ok (by simp) hpull hitem

/-- What is delivered after some items, if the triples among these are remembered. -/
theorem delivered_newItems {rs : List (Except EvalError Binding)}
    (h : Delivered ((Solutions.machine B n).pullGuarded B.cancelled) solutions s rs)
    {before : List (Except EvalError Triple)} (hgiven : Remembers given before) :
  Delivered (pullWithin B n) ⟨solutions, template, [], given, number⟩ s
    (newItems before (instances template number rs))
  := by
  induction h generalizing given before number with
  | ended fuel hended => apply Delivered.ended (fuel + 1) (pullWithin_of_ended hended)
  | @item _ _ _ _ r rs fuel hitem _ ih =>
    cases r with
    | error e =>
      rw [instances, newItems_cons, isNewAfter, if_pos rfl]
      apply Delivered.item (fuel + 1) (pullWithin_of_error hitem) (ih (hgiven.error e))
    | ok b =>
      obtain ⟨hts, hgiven'⟩ := map_construct number b template hgiven
      rw [instances, newItems_append, ← hts]
      apply delivered_solution hitem (ih hgiven')

end

/-- Any list of bindings is a sequence of solutions. -/
theorem delivered_ready {s : σ} (hs : B.cancelled s = false) (bs : List Binding) :
  Delivered ((Solutions.machine B n).pullGuarded B.cancelled) (some (.ready bs)) s (bs.map .ok)
  := by
  have hguard : ∀ t, (Solutions.machine B n).pullGuarded B.cancelled 1 (some t) s
      = (((Solutions.machine B n).pull 1 t s).1, some ((Solutions.machine B n).pull 1 t s).2.1,
        ((Solutions.machine B n).pull 1 t s).2.2) := by
    intro t
    rw [Machine.pullGuarded, hs]
    rfl
  induction bs with
  | nil => apply Delivered.ended 1 (hguard _)
  | cons b bs ih => apply Delivered.item 1 (hguard _) ih

/-- Two persons with the same first name, one of whom is written with a family name. -/
def namedPersons : List Binding :=
  [.ofList [(⟨"name"⟩, .literal (.simple "Ann"))],
    .ofList [(⟨"name"⟩, .literal (.simple "Ann")), (⟨"family"⟩, .literal (.simple "Lee"))]]

/-- A person is a new node with a name and a family name, and the name is a name. -/
def personTemplate : List TriplePattern :=
  [⟨.term (.blank (.named "p")), .term (.iri ⟨"ex:name"⟩), .variable ⟨"name"⟩⟩,
    ⟨.term (.blank (.named "p")), .term (.iri ⟨"ex:family"⟩), .variable ⟨"family"⟩⟩,
    ⟨.term (.iri ⟨"ex:names"⟩), .term (.iri ⟨"ex:has"⟩), .variable ⟨"name"⟩⟩]

end Construction

end RelGraph.Engine
