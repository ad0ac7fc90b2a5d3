import RelGraph.Proofs.Engine.Failures

/-!
# Reports of a cancellation

A cancelled reading is noticed in two places: by the readers of a plan, and before each pull.  If the
reading is cancelled between two pulls, this is reported once, and nothing comes after it.  If it is
cancelled during a pull, a reader may report it, and then it is reported once more.
-/

namespace RelGraph.Engine

open Rdf Sql Sparql Mapping Machine

variable {σ κ : Type} {B : Backend σ κ} {n : Nat}

/-! ### Stores in use -/

/-- What a backend does keeps the store within some kind of stores. -/
structure Backend.Keeps (B : Backend σ κ) (I : σ → Prop) : Prop where
  execute : ∀ {q s}, I s → I (B.execute q s).2
  next : ∀ {c s}, I s → I (B.next c s).2.2
  close : ∀ {c s}, I s → I (B.close c s).2.2

variable {I : σ → Prop} {s : σ}

namespace Reader

variable {α ι : Type} [Member α ι]

omit [Member α ι] in
theorem keeps_close (hB : B.Keeps I) (r : Reader α ι κ) (h : I s) :
  I (r.close B s).2
  := by
  rw [close]
  split
  · apply hB.close h
  · apply h

theorem keeps_fetch (hB : B.Keeps I) (g : Group α) (c : κ) (items : List ι) (h : I s) :
  I (fetch B g n c items s).2
  := by
  induction n generalizing c items s with
  | zero => apply h
  | succ n ih =>
    have hnext := hB.next (c := c) h
    rw [fetch]
    split
    · rename_i heq
      rw [heq] at hnext
      apply ih _ _ hnext
    · rename_i heq
      rw [heq] at hnext
      apply hB.close hnext
    · rename_i heq
      rw [heq] at hnext
      apply hB.close hnext

theorem keeps_step (hB : B.Keeps I) (r : Reader α ι κ) (h : I s) :
  I (r.step B n s).2.2
  := by
  rw [step]
  split
  · apply keeps_close hB r h
  · split
    · apply h
    · split
      · have hexecute := hB.execute (q := r.group.query) h
        rw [send]
        split
        · apply h
        · split
          · apply h
          · split
            · rename_i heq
              rw [heq] at hexecute
              apply hexecute
            · rename_i heq
              rw [heq] at hexecute
              apply hexecute
      · apply h
      · rename_i c _
        have hfetch := keeps_fetch (n := n) hB r.group c ([] : List ι) h
        simp only
        split <;> apply hfetch

/-- A reader reports a cancellation only if there is one. -/
theorem cancelled_of_step {r : Reader α ι κ}
    (h : (r.step B n s).1 = .item (.error .cancelled)) :
  B.cancelled s = true
  := by
  rw [step] at h
  split at h
  · assumption
  · split at h
    · cases h
    · split at h
      · rw [send] at h
        repeat' split at h
        all_goals cases h
      · cases h
      · simp only at h
        split at h <;> cases h

end Reader

namespace Scan

variable {α ι : Type} [Member α ι]

theorem keeps_step (hB : B.Keeps I) (t : Scan α ι κ) (h : I s) :
  I (t.step B n s).2.2
  := by
  rw [step]
  split
  · rename_i r _
    have hstep := Reader.keeps_step (n := n) hB r h
    split
    · rename_i r' s' heq
      rw [heq] at hstep
      apply Reader.keeps_close hB r' hstep
    · rename_i heq
      rw [heq] at hstep
      apply hstep
  · split <;> apply h

theorem cancelled_of_step {t : Scan α ι κ}
    (h : (t.step B n s).1 = .item (.error .cancelled)) :
  B.cancelled s = true
  := by
  rw [step] at h
  split at h
  · rename_i r _
    split at h
    · cases h
    · rename_i heq
      apply @Reader.cancelled_of_step σ κ B n s α ι _ r
      rw [heq]
      apply h
  · split at h <;> cases h

end Scan

namespace Solutions

theorem keeps_close (hB : B.Keeps I) (t : Solutions κ) (h : I s) :
  I (close B t s)
  := by
  induction t generalizing s with
  | scan t =>
    rw [close, Scan.close]
    split
    · apply Reader.keeps_close hB _ h
    · apply h
  | _ => simp_all [close]

theorem keeps_closeAll (hB : B.Keeps I) (ts : List (Solutions κ)) (h : I s) :
  I (closeAll B ts s)
  := by
  induction ts generalizing s with
  | nil => apply h
  | cons t ts ih => apply ih (keeps_close hB t h)

/-- An error comes from the operand that makes the step. -/
theorem eq_of_react_error {t p p' : Solutions κ} {e : Event Binding} {f : EvalError}
    (h : t.active? = some p) (hreact : (t.react e p').1 = .item (.error f)) :
  e = .item (.error f)
  := by
  cases t with
  | ready bs => cases h
  | scan t => cases h
  | union ps => cases h
  | leftJoinAt l r condition b inner matched =>
    obtain (_ | c) | _ | _ := e
    · apply hreact
    · cases hm : (b.merge? c).filter condition.holds <;> simp [react, hm] at hreact
    · cases hreact
    · cases matched <;> cases hreact
  | distinct p seen =>
    obtain (_ | b) | _ | _ := e
    · apply hreact
    · by_cases hb : b ∈ seen <;> simp [react, hb] at hreact
    · cases hreact
    · cases hreact
  | reduced p current =>
    obtain (_ | b) | _ | _ := e <;> cases current <;> simp_all [react, ite_eq_iff]
  | skip k p =>
    obtain (_ | b) | _ | _ := e <;> cases k <;> simp_all [react]
  | take k p =>
    obtain (_ | b) | _ | _ := e <;> cases k <;> simp_all [react]
  | _ => obtain (_ | b) | _ | _ := e <;> simp_all [react, ite_eq_iff]

theorem keeps_step (hB : B.Keeps I) (t : Solutions κ) (h : I s) :
  I (step B n t s).2.2
  := by
  induction t using step_induction with
  | active t p hactive ih =>
    rw [step_of_active? hactive]
    apply keeps_closeAll hB _ ih
  | scan t => apply Scan.keeps_step hB t h
  | _ => simpa [step] using h

/-- A plan reports a cancellation only if there is one. -/
theorem cancelled_of_step {t : Solutions κ}
    (h : (step B n t s).1 = .item (.error .cancelled)) :
  B.cancelled s = true
  := by
  induction t using step_induction with
  | active t p hactive ih =>
    rw [step_of_active? hactive] at h
    apply ih (eq_of_react_error hactive h)
  | scan t => apply Scan.cancelled_of_step h
  | _ => cases h

theorem keeps_pullGuarded (hB : B.Keeps I) {cancelled : σ → Bool} {fuel : Nat}
    {t : Option (Solutions κ)} (h : I s) :
  I ((machine B n).pullGuarded cancelled fuel t s).2.2
  := by
  cases t with
  | none => apply h
  | some t =>
    rw [pullGuarded]
    split
    · apply keeps_close hB t h
    · have hstep : ∀ (is : List (Except EvalError Binding)) (t : Solutions κ) (s : σ)
          (e : Event Binding) (t' : Solutions κ) (s' : σ),
          I s → (machine B n).step t s = (e, t', s') → I s' := by
        intro _ t s e t' s' hs heq
        have hs' := keeps_step (n := n) hB t hs
        rw [show step B n t s = (e, t', s') from heq] at hs'
        apply hs'
      apply @pull_preserves _ _ _ _ [] (fun _ _ s => I s) hstep fuel t _ s _ _ h rfl

/-- A cancellation that is not taken back is there after it was reported. -/
theorem cancelled_after_step (hB : B.Keeps fun s => B.cancelled s = true) {t t' : Solutions κ}
    {s' : σ} (h : step B n t s = (.item (.error .cancelled), t', s')) :
  B.cancelled s' = true
  := by
  have hs : B.cancelled s = true := by
    apply @cancelled_of_step σ κ B n s t
    rw [h]
  have hs' := keeps_step (n := n) hB t hs
  rw [h] at hs'
  apply hs'

end Solutions

/-! ### Guarded reading -/

namespace Machine

variable {τ ι : Type} {m : Machine σ τ ι} {cancelled : σ → Bool} {M W : σ → σ → Prop}

/-- What is pulled one after the other in a guarded reading.  The store may change in any way that `M`
allows between two pulls and between two steps of a pull; as a whole, a pull changes the store as `W`
allows. -/
inductive Reads (m : Machine σ τ ι) (cancelled : σ → Bool) (M W : σ → σ → Prop) (t₀ : Option τ)
    (s₀ : σ) : List (Pulled ι) → Option τ → σ → Prop where
  | start : Reads m cancelled M W t₀ s₀ [] t₀ s₀
  | meanwhile {ps : List (Pulled ι)} {t : Option τ} {s s' : σ} :
    Reads m cancelled M W t₀ s₀ ps t s → M s s' → Reads m cancelled M W t₀ s₀ ps t s'
  /-- The reading was over. -/
  | ended {ps : List (Pulled ι)} {s : σ} :
    Reads m cancelled M W t₀ s₀ ps none s
    → Reads m cancelled M W t₀ s₀ (ps ++ [Pulled.ended]) none s
  /-- The reading was found to be cancelled before the pull. -/
  | stopped {ps : List (Pulled ι)} {t : τ} {s : σ} :
    Reads m cancelled M W t₀ s₀ ps (some t) s → cancelled s = true
    → Reads m cancelled M W t₀ s₀ (ps ++ [Pulled.item (.error .cancelled)]) none (m.close t s)
  /-- Steps were made up to the first one that gives something. -/
  | pulled {ps : List (Pulled ι)} {t t' : τ} {s s' : σ} {k : Nat} {e : Event ι} {p : Pulled ι} :
    Reads m cancelled M W t₀ s₀ ps (some t) s → cancelled s = false
    → m.Runs M t s (List.replicate k Event.quiet ++ [e]) t' s' → pulled? e = some p → W s s'
    → Reads m cancelled M W t₀ s₀ (ps ++ [p]) (some t') s'

/-- A guarded pull is part of a guarded reading. -/
theorem Reads.of_pullGuarded {t₀ t t' : Option τ} {s₀ s s' : σ} {ps : List (Pulled ι)}
    (h : m.Reads cancelled M W t₀ s₀ ps t s) {fuel : Nat} {p : Pulled ι}
    (hpull : m.pullGuarded cancelled fuel t s = (p, t', s')) (hp : p ≠ .pending) (hW : W s s') :
  m.Reads cancelled M W t₀ s₀ (ps ++ [p]) t' s'
  := by
  cases t with
  | none =>
    cases hpull
    apply h.ended
  | some t =>
    rw [pullGuarded] at hpull
    split at hpull
    · rename_i hs
      cases hpull
      apply h.stopped hs
    · rename_i hs
      cases hpull
      obtain ⟨k, e, he, hruns⟩ := Runs.of_pull (M := M) .start rfl hp
      apply h.pulled (by simpa using hs) hruns he hW

/-- Pulls some times, each time after a change of the store. -/
def readAll (m : Machine σ τ ι) (cancelled : σ → Bool) (fuel : Nat) :
    List (σ → σ) → Option τ → σ → List (Pulled ι) × Option τ × σ
  | [], t, s => ([], t, s)
  | f :: fs, t, s =>
    let (p, t', s') := m.pullGuarded cancelled fuel t (f s)
    let (ps, t'', s'') := m.readAll cancelled fuel fs t' s'
    (p :: ps, t'', s'')

theorem Reads.of_readAll {fs : List (σ → σ)} (hM : ∀ f ∈ fs, ∀ s, M s (f s)) {fuel : Nat}
    (hW : ∀ t s, W s (m.pullGuarded cancelled fuel t s).2.2) {t₀ t : Option τ} {s₀ s : σ}
    {ps : List (Pulled ι)} (h : m.Reads cancelled M W t₀ s₀ ps t s)
    (hp : ∀ p ∈ (m.readAll cancelled fuel fs t s).1, p ≠ .pending) :
  m.Reads cancelled M W t₀ s₀ (ps ++ (m.readAll cancelled fuel fs t s).1)
    (m.readAll cancelled fuel fs t s).2.1 (m.readAll cancelled fuel fs t s).2.2
  := by
  induction fs generalizing ps t s with
  | nil =>
    rw [readAll, List.append_nil]
    apply h
  | cons f fs ih =>
    simp only [readAll, List.forall_mem_cons] at hM hp ⊢
    rw [List.append_cons]
    apply ih hM.2 _ hp.2
    apply (h.meanwhile (hM.1 s)).of_pullGuarded rfl hp.1 (hW _ _)

/-- No pull changes the store from one whose reading is not cancelled to one whose reading is. -/
def Undisturbed (cancelled : σ → Bool) (W : σ → σ → Prop) : Prop :=
  ∀ s s', W s s' → cancelled s = false → cancelled s' = false

/-- The pulls so far: no report of a cancellation, or one by a step, or one before a pull, which may
follow one by a step.  Steps report it only if a pull was disturbed. -/
inductive Told (cancelled : σ → Bool) (W : σ → σ → Prop) :
    List (Pulled ι) → Option τ → σ → Prop where
  | untold {ps : List (Pulled ι)} {t : Option τ} {s : σ} :
    Pulled.item (.error .cancelled) ∉ ps → Told cancelled W ps t s
  | within {ps : List (Pulled ι)} {t : τ} {s : σ} :
    Pulled.item (.error .cancelled) ∉ ps → ¬ Undisturbed cancelled W → cancelled s = true
    → Told cancelled W (ps ++ [Pulled.item (.error .cancelled)]) (some t) s
  | once {ps : List (Pulled ι)} {s : σ} (k : Nat) :
    Pulled.item (.error .cancelled) ∉ ps
    → Told cancelled W (ps ++ Pulled.item (.error .cancelled) :: List.replicate k Pulled.ended)
      none s
  | twice {ps : List (Pulled ι)} {s : σ} (k : Nat) :
    Pulled.item (.error .cancelled) ∉ ps → ¬ Undisturbed cancelled W
    → Told cancelled W
      (ps ++ Pulled.item (.error .cancelled) :: Pulled.item (.error .cancelled)
        :: List.replicate k Pulled.ended)
      none s

/-- If steps report a cancellation only when there is one, and it is not taken back, then a guarded
reading reports it as said. -/
theorem Reads.told (hM : ∀ s s', M s s' → cancelled s = true → cancelled s' = true)
    (hstep : ∀ t s t' s', m.step t s = (.item (.error .cancelled), t', s') → cancelled s' = true)
    {t₀ : τ} {s₀ s : σ} {ps : List (Pulled ι)} {t' : Option τ}
    (h : m.Reads cancelled M W (some t₀) s₀ ps t' s) :
  Told cancelled W ps t' s
  := by
  induction h with
  | start => apply Told.untold (by simp)
  | meanwhile _ hs ih =>
    cases ih with
    | untold hps => apply Told.untold hps
    | within hps hW hcancelled => apply Told.within hps hW (hM _ _ hs hcancelled)
    | once k hps => apply Told.once k hps
    | twice k hps hW => apply Told.twice k hps hW
  | ended _ ih =>
    cases ih with
    | untold hps => apply Told.untold (by simpa using hps)
    | once k hps =>
      rw [List.append_assoc, List.cons_append, ← List.replicate_succ']
      apply Told.once (k + 1) hps
    | twice k hps hW =>
      rw [List.append_assoc, List.cons_append, List.cons_append, ← List.replicate_succ']
      apply Told.twice (k + 1) hps hW
  | stopped _ _ ih =>
    cases ih with
    | untold hps => apply Told.once 0 hps
    | within hps hW _ =>
      rw [List.append_assoc]
      apply Told.twice 0 hps hW
  | @pulled ps t t' s s' k e p _ hs hruns hp hW ih =>
    cases ih with
    | within hps _ hcancelled =>
      -- a cancelled reading is stopped before the pull
      rw [hcancelled] at hs
      cases hs
    | untold hps =>
      by_cases he : e = .item (.error .cancelled)
      · subst he
        cases hp
        have hcancelled : cancelled s' = true := by
          apply hruns.of_getLast? (Q := fun _ s => cancelled s = true) hstep
          · intro t s s' hs hM'
            apply hM s s' hM' hs
          · simp
        apply Told.within hps _ hcancelled
        intro hundisturbed
        rw [hundisturbed _ _ hW hs] at hcancelled
        cases hcancelled
      · apply Told.untold
        rw [List.mem_append, not_or]
        use hps
        rw [List.mem_singleton]
        rintro rfl
        apply he
        cases e <;> cases hp
        rfl

end Machine

/-! ### Plans -/

/-- A cancellation is not reported, or it is reported once and only the end follows. -/
def ReportedAtMostOnce (ps : List (Pulled Binding)) : Prop :=
  ∃ before k, Pulled.item (.error .cancelled) ∉ before
    ∧ (ps = before
      ∨ ps = before ++ Pulled.item (.error .cancelled) :: List.replicate k Pulled.ended)

/-- A cancellation is not reported, or it is reported once or twice and only the end follows. -/
def ReportedAtMostTwice (ps : List (Pulled Binding)) : Prop :=
  ∃ before k, Pulled.item (.error .cancelled) ∉ before
    ∧ (ps = before
      ∨ ps = before ++ Pulled.item (.error .cancelled) :: List.replicate k Pulled.ended
      ∨ ps = before ++ Pulled.item (.error .cancelled) :: Pulled.item (.error .cancelled)
        :: List.replicate k Pulled.ended)

namespace Plan

/-- A cancellation that is not taken back is reported at most twice, and then only the end comes.  It
is reported at most once if the reading is not cancelled during a pull. -/
theorem cancellation_reported (hB : B.Keeps fun s => B.cancelled s = true) {M W : σ → σ → Prop}
    (hM : ∀ s s', M s s' → B.cancelled s = true → B.cancelled s' = true) {p : Plan} {s s' : σ}
    {ps : List (Pulled Binding)} {t : Option (Solutions κ)}
    (h : (Solutions.machine B n).Reads B.cancelled M W (some (.ofPlan p)) s ps t s') :
  ReportedAtMostTwice ps ∧ (Undisturbed B.cancelled W → ReportedAtMostOnce ps)
  := by
  have htold := h.told hM fun t s t' s' hstep => Solutions.cancelled_after_step hB hstep
  cases htold with
  | untold hps =>
    constructor
    · exact ⟨ps, 0, hps, Or.inl rfl⟩
    · intro _
      exact ⟨ps, 0, hps, Or.inl rfl⟩
  | within hps hW _ =>
    constructor
    · exact ⟨_, 0, hps, Or.inr (Or.inl rfl)⟩
    · intro hundisturbed
      contradiction
  | once k hps =>
    constructor
    · exact ⟨_, k, hps, Or.inr (Or.inl rfl)⟩
    · intro _
      exact ⟨_, k, hps, Or.inr rfl⟩
  | twice k hps hW =>
    constructor
    · exact ⟨_, k, hps, Or.inr (Or.inr rfl)⟩
    · intro hundisturbed
      contradiction

/-! ### Examples -/

theorem keeps_cancelled (db : Database) (faults : Faults) :
  (memoryBackend db faults).Keeps fun s => (memoryBackend db faults).cancelled s = true
  := by
  constructor
  · intro q s h
    apply h
  · intro c s h
    have hfetch : (s.countFetch faults).cancelled = true := by
      rw [Store.countFetch, show s.cancelled = true from h]
      rfl
    simp only [memoryBackend]
    split <;> apply hfetch
  · intro c s h
    apply h

/-- The reading of a store that is not cancelled and will not be. -/
theorem keeps_live (db : Database) :
  (memory db).Keeps Live
  := by
  constructor
  · intro q s h
    rw [execute_eq]
    apply h
  · intro c s h
    obtain ⟨hnext, hlive⟩ := @live_next db s h c
    rw [hnext]
    apply hlive
  · intro c s h
    apply live_close h c

/-- A cancellation is what was pulled. -/
def isCancellation : Pulled Binding → Bool
  | .item (.error .cancelled) => true
  | _ => false

/-- Something was pulled. -/
def isKnown : Pulled Binding → Bool
  | .pending => false
  | _ => true

theorem forall_ne_pending {ps : List (Pulled Binding)} (h : ps.all isKnown = true) :
  ∀ p ∈ ps, p ≠ .pending
  := by
  rintro p hp rfl
  cases List.all_eq_true.1 h _ hp

/-- The reading of persons is cancelled after the first one. -/
theorem cancellation_reported_persons :
  ∃ (ps : List (Pulled Binding)) (t : Option (Solutions Cursor)) (s' : Store),
    (Solutions.machine (memory personDatabase) 1).Reads (memory personDatabase).cancelled
        (fun s s' => s' = s ∨ s' = s.cancel) (fun s s' => Live s → Live s')
        (some (.ofPlan (.maps [personMap]))) Store.start ps t s'
      ∧ ps.map isCancellation = [false, true, false] ∧ ReportedAtMostOnce ps
  := by
  generalize hm : Solutions.machine (memory personDatabase) 1 = m
  have hcheck : (m.readAll Store.cancelled 9 [id, Store.cancel, id]
        (some (.ofPlan (.maps [personMap]))) Store.start).1.map isCancellation = [false, true, false]
      ∧ (m.readAll Store.cancelled 9 [id, Store.cancel, id]
        (some (.ofPlan (.maps [personMap]))) Store.start).1.all isKnown = true := by
    subst hm
    decide
  have hreads := Reads.of_readAll (m := m) (M := fun s s' => s' = s ∨ s' = s.cancel)
    (W := fun s s' => Live s → Live s') (by simp) (by
      subst hm
      intro t s hs
      apply Solutions.keeps_pullGuarded (keeps_live personDatabase) hs)
    .start (forall_ne_pending hcheck.2)
  subst hm
  refine ⟨_, _, _, hreads, hcheck.1, ?_⟩
  apply (cancellation_reported (keeps_cancelled _ _) _ hreads).2
  · intro s s' hs
    apply hs
  · rintro s s' (rfl | rfl) hs
    · apply hs
    · rfl

/-- The reading of persons is cancelled while the first one is fetched. -/
theorem cancellation_repeated_persons :
  ∃ (ps : List (Pulled Binding)) (t : Option (Solutions Cursor)) (s' : Store),
    (Solutions.machine (memoryBackend personDatabase ⟨none, some 0⟩) 1).Reads
        (memoryBackend personDatabase ⟨none, some 0⟩).cancelled Eq (fun _ _ => True)
        (some (.ofPlan (.maps [personMap]))) Store.start ps t s'
      ∧ ps.map isCancellation = [true, true, false]
  := by
  generalize hm : Solutions.machine (memoryBackend personDatabase ⟨none, some 0⟩) 1 = m
  have hcheck : (m.readAll Store.cancelled 9 [id, id, id]
        (some (.ofPlan (.maps [personMap]))) Store.start).1.map isCancellation = [true, true, false]
      ∧ (m.readAll Store.cancelled 9 [id, id, id]
        (some (.ofPlan (.maps [personMap]))) Store.start).1.all isKnown = true := by
    subst hm
    decide
  have hreads := Reads.of_readAll (m := m) (M := Eq) (W := fun _ _ => True) (by simp)
    (fun _ _ => trivial) .start (forall_ne_pending hcheck.2)
  exact ⟨_, _, _, hreads, hcheck.1⟩

end Plan

end RelGraph.Engine
