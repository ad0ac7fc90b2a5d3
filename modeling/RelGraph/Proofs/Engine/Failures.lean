import RelGraph.Proofs.Engine.Narrow
import RelGraph.Proofs.Engine.Steps

/-!
# Failures of the database

A backend can keep a record of the queries and the fetches that failed.  Each of them is reported by
an error among the items, in the same order, unless the plan leaves out the items before an offset:
these are counted whether they are solutions or errors.
-/

namespace RelGraph.Engine

open Rdf Sql Sparql Mapping Machine

variable {σ κ : Type} {B : Backend σ κ} {n : Nat}

deriving instance DecidableEq for NameError, DatabaseError

/-! ### A record of failures -/

/-- The error of a query that failed. -/
def executeFailures : Except DatabaseError κ → List DatabaseError
  | .ok _ => []
  | .error e => [e]

/-- The error of a fetch that failed. -/
def fetchFailures : Fetched → List DatabaseError
  | .failed e => [e]
  | .row _ => []
  | .ended => []

/-- The backend with a record of the failures of queries and fetches. -/
def Backend.logged (B : Backend σ κ) : Backend (σ × List DatabaseError) κ where
  execute q s :=
    let (r, s') := B.execute q s.1
    (r, s', s.2 ++ executeFailures r)
  next c s :=
    let (f, c', s') := B.next c s.1
    (f, c', s', s.2 ++ fetchFailures f)
  close c s :=
    let (r, c', s') := B.close c s.1
    (r, c', s', s.2)
  cancelled s := B.cancelled s.1

theorem execute_logged (q : Select) (s : σ) (log : List DatabaseError) :
  B.logged.execute q (s, log)
    = ((B.execute q s).1, (B.execute q s).2, log ++ executeFailures (B.execute q s).1)
  := rfl

theorem next_logged (c : κ) (s : σ) (log : List DatabaseError) :
  B.logged.next c (s, log)
    = ((B.next c s).1, (B.next c s).2.1, (B.next c s).2.2, log ++ fetchFailures (B.next c s).1)
  := rfl

/-- The error of the database in an item. -/
def failure? {ι : Type} : Except EvalError ι → Option DatabaseError
  | .error (.database e) => some e
  | _ => none

/-- The errors of the database among some items. -/
def reported {ι : Type} (is : List (Except EvalError ι)) : List DatabaseError :=
  is.filterMap failure?

theorem reported_append {ι : Type} (is js : List (Except EvalError ι)) :
  reported (is ++ js) = reported is ++ reported js
  := List.filterMap_append

@[simp]
theorem reported_ok {ι : Type} (i : ι) :
  reported (eventItems (.item (.ok i))) = []
  := rfl

@[simp]
theorem reported_quiet {ι : Type} :
  reported (eventItems (.quiet : Event ι)) = []
  := rfl

@[simp]
theorem reported_finished {ι : Type} :
  reported (eventItems (.finished : Event ι)) = []
  := rfl

@[simp]
theorem reported_ite {ι : Type} (c : Prop) [Decidable c] (e e' : Event ι) :
  reported (eventItems (if c then e else e'))
    = if c then reported (eventItems e) else reported (eventItems e')
  := by
  split <;> rfl

/-! ### Readers -/

namespace Reader

variable {α ι : Type} [Member α ι]

theorem fetch_logged (g : Group α) (c : κ) (items : List ι) (s : σ) (log : List DatabaseError) :
  fetch B.logged g n c items (s, log)
    = ((fetch B g n c items s).1, (fetch B g n c items s).2,
        log ++ (fetch B g n c items s).1.error.toList)
  := by
  induction n generalizing c items s log with
  | zero => simp [fetch]
  | succ n ih =>
    rw [fetch, fetch, next_logged]
    obtain ⟨row | _ | e, c', s'⟩ := B.next c s
    · rw [fetchFailures, List.append_nil]
      apply ih
    · simp [fetchFailures, Backend.logged]
    · simp [fetchFailures, Backend.logged]

omit [Member α ι] in
theorem close_logged (r : Reader α ι κ) (s : σ) (log : List DatabaseError) :
  r.close B.logged (s, log) = ((r.close B s).1, (r.close B s).2, log)
  := by
  rw [close, close]
  split <;> rfl

attribute [local simp] eventItems reported

theorem send_logged (r : Reader α ι κ) (s : σ) (log : List DatabaseError) :
  r.send B.logged (s, log)
    = ((r.send B s).1, (r.send B s).2.1, (r.send B s).2.2,
        log ++ reported (eventItems (r.send B s).1))
  := by
  rw [send, send]
  split
  · simp
  · split
    · simp
    · rw [execute_logged]
      obtain ⟨e | c, s'⟩ := B.execute r.group.query s
      · simp [failure?, executeFailures]
      · simp [executeFailures]

/-- The record of a reader grows by what it reports. -/
theorem step_logged (r : Reader α ι κ) (s : σ) (log : List DatabaseError) :
  r.step B.logged n (s, log)
    = ((r.step B n s).1, (r.step B n s).2.1, (r.step B n s).2.2,
        log ++ reported (eventItems (r.step B n s).1))
  := by
  have hcancelled : B.logged.cancelled (s, log) = B.cancelled s := rfl
  rw [step, step, hcancelled]
  split
  · rw [close_logged]
    by_cases hr : r.isRunning = true <;> simp [hr, failure?]
  · split
    · simp [failure?]
    · split
      · apply send_logged
      · simp
      · rename_i c _
        rw [fetch_logged]
        obtain ⟨⟨_ | e, progress, items⟩, s'⟩ := fetch B r.group n c [] s
        · simp
        · simp [failure?]

end Reader

theorem Scan.step_logged {α ι : Type} [Member α ι] (t : Scan α ι κ) (s : σ)
    (log : List DatabaseError) :
  t.step B.logged n (s, log)
    = ((t.step B n s).1, (t.step B n s).2.1, (t.step B n s).2.2,
        log ++ reported (eventItems (t.step B n s).1))
  := by
  rw [step, step]
  split
  · rename_i r _
    rw [Reader.step_logged]
    obtain ⟨e | _ | _, r', s'⟩ := r.step B n s
    · rfl
    · rfl
    · simp [Reader.close_logged, eventItems, reported]
  · split <;> simp [eventItems, reported]

/-! ### Offsets -/

namespace Plan

mutual

/-- No part of the plan leaves out the items before an offset. -/
def isOffsetless : Plan → Bool
  | .maps _ => true
  | .join l r => isOffsetless l && isOffsetless r
  | .leftJoin l r _ => isOffsetless l && isOffsetless r
  | .filter p _ => isOffsetless p
  | .union ps => areOffsetless ps
  | .minus l r => isOffsetless l && isOffsetless r
  | .extend p _ _ => isOffsetless p
  | .values _ => true
  | .orderBy p _ => isOffsetless p
  | .project p _ => isOffsetless p
  | .distinct p => isOffsetless p
  | .reduced p => isOffsetless p
  | .slice p start _ => start == 0 && isOffsetless p

/-- No part of the plans leaves out the items before an offset. -/
def areOffsetless : List Plan → Bool
  | [] => true
  | p :: ps => isOffsetless p && areOffsetless ps

end

theorem areOffsetless_eq_all (ps : List Plan) :
  areOffsetless ps = ps.all isOffsetless
  := by
  induction ps with
  | nil => rfl
  | cons p ps ih => rw [areOffsetless, ih, List.all_cons]

theorem isOffsetless_narrow (p : Plan) (b : Binding) :
  (p.narrow b).isOffsetless = p.isOffsetless
  := by
  induction p generalizing b with
  | union ps ih =>
    rw [narrow, isOffsetless, isOffsetless, areOffsetless_eq_all, areOffsetless_eq_all,
      narrowAll_eq_map, List.all_map, Bool.eq_iff_iff, List.all_eq_true, List.all_eq_true]
    apply forall₂_congr
    intro p hp
    rw [Function.comp_apply, ih p hp]
  | _ => simp only [narrow, isOffsetless, *]

end Plan

namespace Solutions

/-- No item is left out because it stands before an offset. -/
def isStraight : Solutions κ → Bool
  | .ready _ => true
  | .scan _ => true
  | .join l r => isStraight l && isStraight r
  | .joinCollect l r _ _ => isStraight l && isStraight r
  | .joinFound _ l _ => isStraight l
  | .leftJoin l r _ => isStraight l && r.isOffsetless
  | .leftJoinAt l r _ _ inner _ => isStraight l && r.isOffsetless && isStraight inner
  | .filter p _ => isStraight p
  | .union ps => Plan.areOffsetless ps
  | .unionAt p ps => isStraight p && Plan.areOffsetless ps
  | .minus l r => isStraight l && isStraight r
  | .minusCollect l r _ _ => isStraight l && isStraight r
  | .minusFound l _ => isStraight l
  | .extend p _ _ => isStraight p
  | .sort p _ _ => isStraight p
  | .project p _ => isStraight p
  | .distinct p _ => isStraight p
  | .reduced p _ => isStraight p
  | .skip _ _ => false
  | .take _ p => isStraight p

attribute [local simp] isStraight

theorem isStraight_ofPlan {p : Plan} (h : p.isOffsetless = true) :
  (ofPlan p : Solutions κ).isStraight = true
  := by
  induction p with
  | slice p start length ih =>
    rw [Plan.isOffsetless, Bool.and_eq_true, beq_iff_eq] at h
    obtain ⟨rfl, hp⟩ := h
    cases length with
    | none => apply ih hp
    | some k => apply ih hp
  | _ => simp_all [Plan.isOffsetless, ofPlan]

theorem isStraight_of_active? {t p : Solutions κ} (h : t.active? = some p)
    (ht : t.isStraight = true) :
  p.isStraight = true
  := by
  rw [active?.eq_def] at h
  split at h <;> cases h <;> simp_all

/-- A state without an offset passes errors on, and its next state has no offset either. -/
theorem react_of_isStraight {t p p' : Solutions κ} (h : t.active? = some p)
    (ht : t.isStraight = true) (hp' : p'.isStraight = true) (e : Event Binding) :
  reported (eventItems (t.react e p').1) = reported (eventItems e)
    ∧ (t.react e p').2.1.isStraight = true
  := by
  cases t with
  | ready bs => cases h
  | scan t => cases h
  | union ps => cases h
  | skip k p => cases ht
  | leftJoin l r condition =>
    rw [isStraight, Bool.and_eq_true] at ht
    have hnarrow : ∀ b, (ofPlan (r.narrow b) : Solutions κ).isStraight = true := by
      intro b
      apply isStraight_ofPlan
      rw [Plan.isOffsetless_narrow, ht.2]
    obtain (f | b) | _ | _ := e <;> simp [react, ht, hp', hnarrow]
  | leftJoinAt l r condition b inner matched =>
    simp only [isStraight, Bool.and_eq_true] at ht
    obtain (f | c) | _ | _ := e
    · simp [react, ht, hp']
    · cases hm : (b.merge? c).filter condition.holds <;> simp [react, hm, ht, hp']
    · simp [react, ht, hp']
    · cases matched <;> simp [react, ht, hp']
  | distinct p seen =>
    obtain (f | b) | _ | _ := e
    · simp [react, hp']
    · by_cases hb : b ∈ seen <;> simp [react, hb, hp']
    · simp [react, hp']
    · simp [react, hp']
  | reduced p current =>
    obtain (f | b) | _ | _ := e <;> cases current <;> simp [react, hp']
  | take k p =>
    obtain (f | b) | _ | _ := e <;> cases k <;> simp [react, hp']
  | _ =>
    simp only [isStraight, Bool.and_eq_true] at ht
    obtain (f | b) | _ | _ := e <;> simp [react, ht, hp']

theorem close_logged (t : Solutions κ) (s : σ) (log : List DatabaseError) :
  close B.logged t (s, log) = (close B t s, log)
  := by
  induction t generalizing s with
  | scan t =>
    rw [close, close, Scan.close, Scan.close]
    split
    · rw [Reader.close_logged]
    · rfl
  | _ => simp [close, *]

theorem closeAll_logged (ts : List (Solutions κ)) (s : σ) (log : List DatabaseError) :
  closeAll B.logged ts (s, log) = (closeAll B ts s, log)
  := by
  induction ts generalizing s with
  | nil => rfl
  | cons t ts ih =>
    rw [closeAll, List.foldl_cons, close_logged]
    apply ih

/-- A state makes the same steps whether failures are recorded or not.  Without an offset, what is
recorded is reported. -/
theorem step_logged (t : Solutions κ) (s : σ) (log : List DatabaseError) :
  ∃ failures, step B.logged n t (s, log)
      = ((step B n t s).1, (step B n t s).2.1, (step B n t s).2.2, log ++ failures)
    ∧ (t.isStraight = true
      → reported (eventItems (step B n t s).1) = failures
        ∧ (step B n t s).2.1.isStraight = true)
  := by
  induction t using step_induction generalizing s with
  | active t p hactive ih =>
    obtain ⟨failures, hstep, hp⟩ := ih s
    use failures
    rw [step_of_active? hactive, step_of_active? hactive, hstep, closeAll_logged]
    use rfl
    intro ht
    obtain ⟨hfailures, hp'⟩ := hp (isStraight_of_active? hactive ht)
    rw [← hfailures]
    apply react_of_isStraight hactive ht hp'
  | scan t =>
    use reported (eventItems (t.step B n s).1)
    simp [step, Scan.step_logged]
  | union_cons p ps =>
    use []
    rw [step, step, List.append_nil]
    use rfl
    intro h
    rw [isStraight, Plan.areOffsetless, Bool.and_eq_true] at h
    use rfl
    rw [isStraight, isStraight_ofPlan h.1, h.2]
    rfl
  | _ =>
    use []
    simp [step]

/-- Each run has a record of the failures in it. -/
theorem exists_completes_logged {t : Solutions κ} {s s' : σ} {is : Items}
    (h : (machine B n).Completes t s is s') :
  ∃ failures, (machine B.logged n).Completes t (s, []) is (s', failures)
  := by
  have hstep : ∀ t (s : σ × List DatabaseError), (machine B n).step t s.1
      = (((machine B.logged n).step t s).1, ((machine B.logged n).step t s).2.1,
          ((machine B.logged n).step t s).2.2.1) := by
    rintro t ⟨s, log⟩
    obtain ⟨failures, hlogged, -⟩ := @step_logged σ κ B n t s log
    simp only [machine, hlogged]
  obtain ⟨⟨_, failures⟩, rfl, hfailures⟩ := Completes.lift hstep (s := (s, [])) h
  use failures

/-- In a run without an offset the failures are reported, each of them once and in their order. -/
theorem reported_of_completes {t : Solutions κ} (ht : t.isStraight = true) {s s' : σ} {is : Items}
    {failures : List DatabaseError}
    (h : (machine B.logged n).Completes t (s, []) is (s', failures)) :
  reported is = failures
  := by
  have hstep : ∀ (is : Items) (t : Solutions κ) (s : σ × List DatabaseError) e t' s',
      (t.isStraight = true ∧ reported is = s.2) → (machine B.logged n).step t s = (e, t', s')
      → t'.isStraight = true ∧ reported (is ++ eventItems e) = s'.2 := by
    rintro is t ⟨s, log⟩ e t' s' ⟨ht, his⟩ hstep
    obtain ⟨failures, hlogged, hfailures⟩ := @step_logged σ κ B n t s log
    obtain ⟨hreported, ht'⟩ := hfailures ht
    simp only [machine, hlogged] at hstep
    cases hstep
    use ht'
    rw [reported_append, his, hreported]
  have hstart : t.isStraight = true ∧ reported ([] : Items) = (s, ([] : List DatabaseError)).2 := by
    use ht
    rfl
  obtain ⟨t', -, h'⟩ := h.preserves hstep hstart
  apply h'

end Solutions

namespace Plan

/-- No failure is swallowed by a plan without an offset: whatever the backend does, the errors of the
database among the items are the errors of the queries and the fetches that failed. -/
theorem failures_reported {p : Plan} (hp : p.isOffsetless = true) {s s' : σ} {is : Items}
    (h : (Solutions.machine B n).Completes (Solutions.ofPlan p) s is s') :
  ∃ failures,
    (Solutions.machine B.logged n).Completes (Solutions.ofPlan p) (s, []) is (s', failures)
      ∧ reported is = failures
  := by
  obtain ⟨failures, hfailures⟩ := Solutions.exists_completes_logged h
  use failures, hfailures
  apply Solutions.reported_of_completes (Solutions.isStraight_ofPlan hp) hfailures

/-! ### Examples -/

/-- Persons with those of the same name, if there are any, at most three solutions. -/
def namesakes : Plan :=
  .slice (.leftJoin (.maps [personMap]) (.maps [personMap]) (.bound ⟨"name"⟩)) 0 (some 3)

/-- The second row that is fetched fails, and this is reported. -/
theorem failures_reported_namesakes :
  namesakes.isOffsetless = true
    ∧ ∃ is s', (Solutions.machine (memoryBackend personDatabase ⟨some 1, none⟩) 1).Completes
        (Solutions.ofPlan namesakes) Store.start is s'
      ∧ reported is = [.cursorClosed]
      ∧ (Solutions.machine (memoryBackend personDatabase ⟨some 1, none⟩).logged 1).Completes
        (Solutions.ofPlan namesakes) (Store.start, []) is (s', [.cursorClosed])
  := by
  have hpull : ((Solutions.machine (memoryBackend personDatabase ⟨some 1, none⟩) 1).pullAll 20 5
      (Solutions.ofPlan namesakes) Store.start).map (fun p => reported p.1)
        = some [.cursorClosed] := by
    decide
  obtain ⟨⟨is, s'⟩, hpull, hreported⟩ := Option.map_eq_some_iff.1 hpull
  have hrun := completes_of_pullAll hpull
  obtain ⟨failures, hlogged, hfailures⟩ := failures_reported (by decide) hrun
  rw [← hfailures, hreported] at hlogged
  exact ⟨by decide, is, s', hrun, hreported, hlogged⟩

/-- The persons after the first one. -/
def otherPersons : Plan := .slice (.maps [personMap]) 1 none

/-- Without a table of persons the query fails.  Its error stands before the offset, so that nothing
is delivered. -/
theorem swallowed_otherPersons :
  ∃ s', (Solutions.machine (memoryBackend ⟨.ofList [], false⟩ Faults.none).logged 1).Completes
    (Solutions.ofPlan otherPersons) (Store.start, []) [] (s', [.unknownTable personTable])
  := by
  have hpull : ((Solutions.machine (memoryBackend ⟨.ofList [], false⟩ Faults.none).logged 1).pullAll
      20 5 (Solutions.ofPlan otherPersons) (Store.start, [])).map
        (fun p => (p.1.isEmpty, p.2.2)) = some (true, [.unknownTable personTable]) := by
    decide
  obtain ⟨⟨is, s', log⟩, hpull, heq⟩ := Option.map_eq_some_iff.1 hpull
  have hrun := completes_of_pullAll hpull
  rw [Prod.mk.injEq, List.isEmpty_iff] at heq
  obtain ⟨rfl, rfl⟩ := heq
  use s'

end Plan

end RelGraph.Engine
